import ClusterClient.CommandLine.Flag
import ClusterClient.Config

/-!
What a command line asks for. The arguments are read one after the other; the first that is
wrong, and a request for help or the version, ends the reading. Only a value that is an argument
of its own right before the command is checked when the command has been read, so that a request
for help comes first. Flags of the connection that are given both before and after the command
count as given after it.
-/

namespace ClusterClient.CommandLine

structure Connection where
  urls : List String := []
  database : Option String := none
  config : Option String := none
  readBalance : Option ReadBalance := none
  apiKey : Option String := none
deriving DecidableEq, Repr, Inhabited

def Connection.override (c : Connection) (config : Config) : Config :=
  { config with
    urls := if c.urls.isEmpty then config.urls else c.urls
    database := c.database.or config.database
    readBalance := c.readBalance.getD config.readBalance
    apiKey := c.apiKey.or config.apiKey }

inductive Command
  | topology
  | clusterTopology
  | get (route : String) (server required : Bool)
  | send (route : String) (method : Method) (body : Option String) (raft server : Bool)
    (ifMatch : Option String)
deriving DecidableEq, Repr, Inhabited

structure Invocation where
  connection : Connection
  command : Command
deriving DecidableEq, Repr, Inhabited

inductive Refusal
  | help
  | version
  | misuse
deriving DecidableEq, Repr, Inhabited

abbrev Given := List (Flag × String)

namespace Given

def values (g : Given) (f : Flag) : List String := (g.filter (·.1 = f)).map (·.2)

def value? (g : Given) (f : Flag) : Option String := (g.values f).head?

def has (g : Given) (f : Flag) : Bool := g.any (·.1 = f)

end Given

structure Reading where
  before : Given := []
  verb : Option Verb := none
  after : Given := []
  route : Option String := none
  literal : Bool := false
  awaiting : Option Flag := none
  refused : Bool := false
  helpOn : Option (List String) := none
deriving Repr, Inhabited

namespace Reading

def allows (r : Reading) (f : Flag) : Bool :=
  match r.verb with
  | none => f.isGlobal || f == .help || f == .version
  | some v => v.allows f

def give (r : Reading) (f : Flag) (value : String) : Except Refusal Reading :=
  let here := if r.verb.isSome then r.after else r.before
  if !f.accepts value || (here.has f && !f.repeats) then .error .misuse
  else
    let here := here ++ [(f, value)]
    .ok (if r.verb.isSome then { r with after := here, awaiting := none }
      else { r with before := here, awaiting := none })

def take (r : Reading) (f : Flag) (value : String) : Except Refusal Reading :=
  match r.verb, r.give f value with
  | none, .error _ => .ok { r with awaiting := none, refused := true }
  | _, outcome => outcome

def mark (r : Reading) (f : Flag) : Except Refusal Reading :=
  match f with
  | .help => .error .help
  | .version => .error .version
  | _ => r.give f ""

def long (r : Reading) (name : String) (value : Option String) : Except Refusal Reading :=
  match Flag.ofLong? name with
  | none => .error .misuse
  | some f =>
    if !r.allows f then .error .misuse
    else if f.takesValue then
      match value with
      | some value => r.give f value
      | none => .ok { r with awaiting := some f }
    else if value.isSome then .error .misuse
    else r.mark f

/-- Short flags behind one hyphen. The value of one that takes a value is what follows it. -/
def shorts (r : Reading) : List Char → Except Refusal Reading
  | [] => .ok r
  | c :: rest =>
    match Flag.ofShort? c with
    | none => .error .misuse
    | some f =>
      if !r.allows f then .error .misuse
      else if f.takesValue then
        match rest with
        | [] => .ok { r with awaiting := some f }
        | '=' :: value => r.give f (String.ofList value)
        | value => r.give f (String.ofList value)
      else (r.mark f).bind (·.shorts rest)

def word (r : Reading) (text : String) : Except Refusal Reading :=
  match r.verb with
  | none =>
    if r.literal then .error .misuse
    else if text = "help" then .ok { r with helpOn := some [] }
    else match Verb.ofName? text with
      | some v => .ok { r with verb := some v }
      | none => .error .misuse
  | some v =>
    if v.takesRoute && r.route.isNone then .ok { r with route := some text }
    else .error .misuse

def step (r : Reading) (arg : String) : Except Refusal Reading :=
  let chars := arg.toList
  let isFlag := match chars with
    | '-' :: _ :: _ => true
    | _ => false
  match r.helpOn, r.awaiting with
  | some names, _ => .ok { r with helpOn := some (names ++ [arg]) }
  | none, some f => if isFlag then .error .misuse else r.take f arg
  | none, none =>
    if r.literal then r.word arg
    else if isFlag && r.refused && r.verb.isNone then .error .misuse
    else match chars with
      | ['-', '-'] => .ok { r with literal := true }
      | '-' :: '-' :: rest =>
        let name := String.ofList (rest.takeWhile (· ≠ '='))
        let value := match rest.dropWhile (· ≠ '=') with
          | _ :: value => some (String.ofList value)
          | [] => none
        r.long name value
      | '-' :: c :: rest => r.shorts (c :: rest)
      | _ => r.word arg

def helpOutcome : List String → Refusal
  | [] => .help
  | [name] => if name = "help" || (Verb.ofName? name).isSome then .help else .misuse
  | _ => .misuse

def connection (r : Reading) (apiKey : Option String) : Connection :=
  let value (f : Flag) : Option String := (r.after.value? f).or (r.before.value? f)
  { urls := if r.after.has .url then r.after.values .url else r.before.values .url
    database := value .database
    config := value .config
    readBalance := (value .readBalance).bind ReadBalance.ofText?
    apiKey := (value .apiKey).or apiKey }

def defaultMethod : Method := .put

def command? (r : Reading) : Option Command :=
  let given := r.after
  match r.verb, r.route with
  | some .topology, _ => some .topology
  | some .clusterTopology, _ => some .clusterTopology
  | some .get, some route => some (.get route (given.has .server) (given.has .required))
  | some .send, some route =>
    let method := ((given.value? .method).bind Method.ofText?).getD defaultMethod
    some (.send route method (given.value? .body) (given.has .raft) (given.has .server)
      (given.value? .ifMatch))
  | _, _ => none

def finish (r : Reading) (apiKey : Option String) : Except Refusal Invocation :=
  match r.helpOn with
  | some names => .error (helpOutcome names)
  | none =>
    if r.awaiting.isSome || r.refused then .error .misuse
    else match r.command? with
      | some command => .ok ⟨r.connection apiKey, command⟩
      | none => .error .misuse

end Reading

def Invocation.ofArgs (args : List String) (apiKey : Option String) :
    Except Refusal Invocation := do
  let r ← args.foldlM Reading.step {}
  r.finish apiKey

end ClusterClient.CommandLine
