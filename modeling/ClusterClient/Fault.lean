import ClusterClient.Http
import ClusterClient.Text.Quoted
import ClusterClient.Topology

namespace ClusterClient

inductive ConfigFault
  | noUrls
  | blankDatabase
  | zeroTimeout
  | zeroInterval
  | reservedStatus (status : UInt16)
  | noDatabase (route : String)
  | malformedYaml
  | other (text : String)
deriving DecidableEq, Repr, Inhabited

def ConfigFault.message : ConfigFault → String
  | noUrls => "at least one seed URL is required"
  | blankDatabase => "database name must not be blank"
  | zeroTimeout => "request_timeout_ms must be > 0"
  | zeroInterval => "topology_refresh_interval_ms must be > 0"
  | reservedStatus status =>
    "status " ++ toString status.toNat ++ " cannot be treated as retryable"
  | noDatabase route =>
    route ++ " is database-scoped but the executor has no database"
  | malformedYaml => "invalid YAML"
  | other text => text

inductive UrlFault
  | unknownScheme (url : String)
  | other (text : String)
deriving DecidableEq, Repr, Inhabited

def UrlFault.message : UrlFault → String
  | unknownScheme url => "URL must start with http:// or https://, got: " ++ url
  | other text => text

inductive Fault
  | transport (url : String) (cause : Http.Failure)
  | unreachable (topology : Topology) (failures : List (Node × Fault))
  | conflict (expected actual : Option String) (text : String)
  | notFound (route : String)
  | rejected (status : UInt16) (text : String)
  | unclassified (status : UInt16) (text body : String)
  | emptyTopology
  | serialization (detail : Option String)
  | invalidUrl (cause : UrlFault)
  | config (cause : ConfigFault)
deriving Repr, Inhabited

abbrev NodeFailure := Node × Fault

namespace Fault

def message : Fault → String
  | transport url cause => "Request to " ++ url ++ " failed: " ++ cause.message
  | unreachable topology failures =>
    "All topology nodes are down: " ++ toString failures.length ++
      " attempt(s) failed against topology etag " ++ toString topology.etag.toInt
  | conflict expected actual text =>
    "Concurrency conflict: expected version " ++ Text.Quoted.optional expected ++ ", actual " ++
      Text.Quoted.optional actual ++ ": " ++ text
  | notFound route => "Resource not found: " ++ route
  | rejected status text =>
    "Request rejected (status " ++ toString status.toNat ++ "): " ++ text
  | unclassified status text _ =>
    "Server error (status " ++ toString status.toNat ++ "): " ++ text
  | emptyTopology => "Topology contains no nodes"
  | serialization none => "Serialization error"
  | serialization (some detail) => "Serialization error: " ++ detail
  | invalidUrl cause => "Invalid URL: " ++ cause.message
  | config cause => "Configuration error: " ++ cause.message

def isRetryable : Fault → Bool
  | transport .. => true
  | _ => false

def isUnreachable : Fault → Bool
  | transport .. | unreachable .. => true
  | _ => false

def status? : Fault → Option UInt16
  | rejected status _ | unclassified status _ _ => some status
  | conflict .. => some 409
  | notFound _ => some 404
  | _ => none

end Fault

end ClusterClient
