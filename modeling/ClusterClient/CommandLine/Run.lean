import ClusterClient.CommandLine.Invocation
import ClusterClient.CommandLine.Report
import ClusterClient.Config.Yaml
import ClusterClient.Simulation

namespace ClusterClient.CommandLine

inductive Complaint
  | unreadableConfig (path : String)
  | invalidConfig (path : String) (cause : Fault)
  | noUrls
  | noDatabase
  | malformedBody
  | databaseNotFound (name : String)
  | noClusterTopology
  | fault (f : Fault)
deriving Repr, Inhabited

def Complaint.message : Complaint → String
  | unreadableConfig path => "Failed to read config: " ++ path
  | invalidConfig path _ => "Invalid config: " ++ path
  | noUrls => "No node URL given; pass --url or set \x60urls\x60 in --config"
  | noDatabase => "This command needs a database; pass --database"
  | malformedBody => "--body must be valid JSON"
  | databaseNotFound name => "Database not found: " ++ name
  | noClusterTopology => "Server returned no cluster topology"
  | fault f => f.message

def Complaint.cause? : Complaint → Option Fault
  | invalidConfig _ cause => some cause
  | _ => none

structure Output where
  status : UInt8
  stdout : String := ""
  stderr : String := ""
deriving DecidableEq, Repr, Inhabited

structure Surroundings where
  apiKey : Option String := none
  configText : Option String := none
  readConfig : String → Option Config := Config.parseYaml?
  servers : Script := {}
  ids : IdSource

/-- The configuration of a connection: that of the file, which must be valid by itself, with the
given flags in place of its fields. -/
def Connection.toConfig (c : Connection) (read : String → Option Config)
    (configText : Option String) : Except Complaint Config := do
  let base ← match c.config with
    | none => .ok {}
    | some path =>
      match configText with
      | none => .error (.unreadableConfig path)
      | some text => (Config.ofText read text).mapError (.invalidConfig path)
  let config := c.override base
  if config.urls.isEmpty then .error .noUrls
  else config.validate.mapError .fault

def Connection.connect (c : Connection) (around : Surroundings) : Except Complaint Simulation := do
  let config ← c.toConfig around.readConfig around.configText
  let client ← (Client.new config around.ids).mapError .fault
  return { client, script := around.servers }

def call (sim : Simulation) (d : Descriptor) (read : Json.Doc → Option α) :
    Except Complaint (Option α) := do
  match (sim.execute d none none).2 with
  | none => return none
  | some outcome =>
    let execution ← outcome.mapError .fault
    (execution.result read).mapError .fault

def readDescriptor (route : String) (server required : Bool) : Descriptor :=
  let d := Descriptor.new .get route
  let d := if server then d.serverScoped else d
  if required then d.requiring else d

def sendDescriptor (route : String) (method : Method) (body : Option String)
    (raft server : Bool) (ifMatch : Option String) : Except Complaint Descriptor := do
  let d := Descriptor.new method route
  let d ← match body with
    | none => .ok d
    | some text =>
      match Json.Value.ofText? text with
      | some value => .ok (d.withJsonBody value)
      | none => .error .malformedBody
  let d := if raft then d.raft else d
  let d := if server then d.serverScoped else d
  return match ifMatch with
    | some version => d.expectVersion version
    | none => d

def valueLines (v : Json.Value) : String := v.pretty ++ "\n"

def Invocation.perform (i : Invocation) (around : Surroundings) :
    Except Complaint (String × String) := do
  match i.command with
  | .topology =>
    let sim ← i.connection.connect around
    match sim.client.database? with
    | none => .error .noDatabase
    | some name =>
      match ← call sim (.databaseTopology name) DatabaseReport.ofDoc? with
      | some report => return (databaseReport name report, "")
      | none => .error (.databaseNotFound name)
  | .clusterTopology =>
    let sim ← i.connection.connect around
    match ← call sim .clusterTopology ClusterReport.ofDoc? with
    | some report => return (clusterReport report, "")
    | none => .error .noClusterTopology
  | .get route server required =>
    let sim ← i.connection.connect around
    match ← call sim (readDescriptor route server required) Json.Doc.value? with
    | some value => return (valueLines value, "")
    | none => return ("", "Not found: " ++ route ++ "\n")
  | .send route method body raft server ifMatch =>
    let d ← sendDescriptor route method body raft server ifMatch
    let sim ← i.connection.connect around
    match ← call sim d Json.Doc.value? with
    | some value => return (valueLines value, "")
    | none => return ("", "")

def Complaint.lines (c : Complaint) : String :=
  let cause := match c.cause? with
    | some f => "\nCaused by:\n    " ++ f.message ++ "\n"
    | none => ""
  "Error: " ++ c.message ++ "\n" ++ cause

def versionLine : String := "vellum 0.1.0\n"

def usage : String :=
  "Usage: vellum [OPTIONS] <COMMAND>\n\n" ++
  "Commands:\n" ++
  "  topology          Show the nodes hosting the database\n" ++
  "  cluster-topology  Show cluster membership and the current leader\n" ++
  "  get               GET a route and print the JSON result\n" ++
  "  send              Send a request with an optional JSON body\n" ++
  "  help              Print this message\n\n" ++
  "Options:\n" ++
  "  -v, --verbose                      Increase verbosity\n" ++
  "  -u, --url <URL>                    Node URL (repeat for several seed nodes)\n" ++
  "  -d, --database <DATABASE>          Database name\n" ++
  "  -c, --config <CONFIG>              YAML configuration; flags override its values\n" ++
  "      --read-balance <READ_BALANCE>  none, fastest-node or round-robin\n" ++
  "      --api-key <API_KEY>            Bearer token\n" ++
  "  -h, --help                         Print help\n" ++
  "  -V, --version                      Print version\n"

def Refusal.output : Refusal → Output
  | help => { status := 0, stdout := usage }
  | version => { status := 0, stdout := versionLine }
  | misuse => { status := 2, stderr := usage }

def Invocation.run (i : Invocation) (around : Surroundings) : Output :=
  match i.perform around with
  | .ok (stdout, remark) => { status := 0, stdout, stderr := remark }
  | .error complaint => { status := 1, stderr := complaint.lines }

end ClusterClient.CommandLine
