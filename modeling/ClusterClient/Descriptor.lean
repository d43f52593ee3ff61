import ClusterClient.Http
import ClusterClient.Text.Percent

namespace ClusterClient

inductive Scope
  | database
  | server
deriving DecidableEq, Repr, Inhabited

inductive Tagging
  | untagged
  | fresh
  | given (id : String)
deriving DecidableEq, Repr, Inhabited

structure Descriptor where
  method : Method
  route : String
  scope : Scope := .database
  body : Option Bytes := none
  isRead : Bool
  tagging : Tagging := .untagged
  expectedVersion : Option String := none
  requireExistence : Bool := false
  noCache : Bool := false
  /-- The start of the routes that a successful write makes stale. -/
  invalidates : Option String := none
deriving DecidableEq, Repr, Inhabited

namespace Descriptor

def withSlash (route : String) : String :=
  match route.toList with
  | '/' :: _ => route
  | _ => "/" ++ route

def new (method : Method) (route : String) : Descriptor :=
  { method, route := withSlash route, isRead := method.isSafe }

def serverScoped (d : Descriptor) : Descriptor := { d with scope := .server }

def withBody (d : Descriptor) (body : Bytes) : Descriptor := { d with body := some body }

def withJsonBody (d : Descriptor) (value : Json.Value) : Descriptor :=
  d.withBody (Text.Utf8.encode value.compact)

def read (d : Descriptor) (isRead : Bool) : Descriptor := { d with isRead }

def raft (d : Descriptor) : Descriptor :=
  match d.tagging with
  | .untagged => { d with tagging := .fresh }
  | _ => d

def withRaftId (d : Descriptor) (id : String) : Descriptor := { d with tagging := .given id }

def expectVersion (d : Descriptor) (version : String) : Descriptor :=
  { d with expectedVersion := some version }

def requiring (d : Descriptor) : Descriptor := { d with requireExistence := true }

def uncached (d : Descriptor) : Descriptor := { d with noCache := true }

def invalidating (d : Descriptor) (stem : String) : Descriptor :=
  { d with invalidates := some stem }

def path (d : Descriptor) : String := String.ofList (d.route.toList.takeWhile (· ≠ '?'))

def staleStem (d : Descriptor) : String := d.invalidates.getD d.path

def isCacheable (d : Descriptor) : Bool := d.isRead && d.method == .get && !d.noCache

def databaseTopology (name : String) : Descriptor :=
  (new .get ("/topology?name=" ++ Text.Percent.encode name)).serverScoped.uncached

def clusterTopology : Descriptor := (new .get "/cluster/topology").serverScoped.uncached

end Descriptor

end ClusterClient
