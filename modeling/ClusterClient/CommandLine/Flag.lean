import ClusterClient.Http
import ClusterClient.Policy

namespace ClusterClient.CommandLine

inductive Flag
  | help
  | version
  | verbose
  | url
  | database
  | config
  | readBalance
  | apiKey
  | server
  | required
  | raft
  | method
  | body
  | ifMatch
deriving DecidableEq, Repr, Inhabited

namespace Flag

def ofLong? : String → Option Flag
  | "help" => some help
  | "version" => some version
  | "verbose" => some verbose
  | "url" => some url
  | "database" => some database
  | "config" => some config
  | "read-balance" => some readBalance
  | "api-key" => some apiKey
  | "server" => some server
  | "required" => some required
  | "raft" => some raft
  | "method" => some method
  | "body" => some body
  | "if-match" => some ifMatch
  | _ => none

def ofShort? : Char → Option Flag
  | 'h' => some help
  | 'V' => some version
  | 'v' => some verbose
  | 'u' => some url
  | 'd' => some database
  | 'c' => some config
  | 'm' => some method
  | 'b' => some body
  | _ => none

def takesValue : Flag → Bool
  | url | database | config | readBalance | apiKey | method | body | ifMatch => true
  | _ => false

def repeats : Flag → Bool
  | url | verbose => true
  | _ => false

def accepts (f : Flag) (value : String) : Bool :=
  match f with
  | readBalance => (ReadBalance.ofText? value).isSome
  | method => (Method.ofText? value).isSome
  | config => value ≠ ""
  | _ => true

def isGlobal : Flag → Bool
  | verbose | url | database | config | readBalance | apiKey => true
  | _ => false

end Flag

inductive Verb
  | topology
  | clusterTopology
  | get
  | send
deriving DecidableEq, Repr, Inhabited

namespace Verb

def ofName? : String → Option Verb
  | "topology" => some topology
  | "cluster-topology" => some clusterTopology
  | "get" => some get
  | "send" => some send
  | _ => none

def takesRoute : Verb → Bool
  | get | send => true
  | _ => false

def allows (v : Verb) (f : Flag) : Bool :=
  f.isGlobal || f == .help ||
    match v with
    | get => f == .server || f == .required
    | send => f == .server || f == .raft || f == .method || f == .body || f == .ifMatch
    | _ => false

end Verb

end ClusterClient.CommandLine
