import ClusterClient.Http
import ClusterClient.Text.Blank

namespace ClusterClient

structure Pattern where
  matchesUrl : String → Bool

namespace Pattern

def any : Pattern := ⟨fun _ => true⟩

def exactly (text : String) : Pattern := ⟨(· == text)⟩

def startsWith (text : String) : Pattern := ⟨fun url => text.toList.isPrefixOf url.toList⟩

def contains (text : String) : Pattern := ⟨fun url => Text.occursIn text.toList url.toList⟩

instance : Inhabited Pattern := ⟨any⟩

end Pattern

structure Rule where
  pattern : Pattern
  method : Option Method := none
  limit : Option Nat := none
  latency : Nat := 0
  reply : Http.Reply
  used : Nat := 0
deriving Inhabited

def Rule.answers (r : Rule) (request : Http.Request) : Bool :=
  r.method.all (· == request.method) && r.limit.all (r.used < ·) &&
    r.pattern.matchesUrl request.url

structure Script where
  rules : List Rule := []
  requests : List Http.Request := []
deriving Inhabited

namespace Script

def take (request : Http.Request) : List Rule → Option (Rule × List Rule)
  | [] => none
  | r :: rest =>
    if r.answers request then some (r, { r with used := r.used + 1 } :: rest)
    else (take request rest).map fun (hit, rest) => (hit, r :: rest)

def send (s : Script) (request : Http.Request) : Script × Http.Reply × Nat :=
  let requests := s.requests ++ [request]
  match take request s.rules with
  | some (r, rules) => ({ rules, requests }, r.reply, r.latency)
  | none =>
    ({ s with requests }, .error (.unscripted request.method.name request.url), 0)

def push (s : Script) (r : Rule) : Script := { s with rules := s.rules ++ [r] }

def matching (s : Script) (p : Pattern) : List Http.Request :=
  s.requests.filter fun request => p.matchesUrl request.url

def clear (s : Script) : Script := { s with requests := [] }

end Script

def Http.Response.serverError (status : UInt16) (message : String) : Http.Response :=
  .json status (.object [("Message", .string message), ("Type", .string "ServerError")])

def Http.Failure.refused : Http.Failure := .connection "connection refused"

end ClusterClient
