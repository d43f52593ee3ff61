import ClusterClient.Text.Blank
import ClusterClient.Text.Utf8
import ClusterClient.Json.Writer

namespace ClusterClient

abbrev Bytes := List UInt8

inductive Method
  | get
  | head
  | post
  | put
  | patch
  | delete
deriving DecidableEq, Repr, Inhabited

namespace Method

def name : Method → String
  | get => "GET"
  | head => "HEAD"
  | post => "POST"
  | put => "PUT"
  | patch => "PATCH"
  | delete => "DELETE"

def isSafe : Method → Bool
  | get | head => true
  | _ => false

def all : List Method := [get, head, post, put, patch, delete]

def ofText? (text : String) : Option Method := all.find? (·.name == Text.asciiUpper text)

def unsupported (text : String) : String := "unsupported HTTP method: " ++ Text.asciiUpper text

end Method

namespace Http

abbrev Headers := List (String × String)

namespace Headers

def set (headers : Headers) (name value : String) : Headers :=
  if headers.any (·.1 == name) then
    headers.map fun field => if field.1 == name then (name, value) else field
  else headers ++ [(name, value)]

def ofList (fields : List (String × String)) : Headers :=
  fields.foldl (fun headers field => headers.set field.1 field.2) []

def find? (headers : Headers) (name : String) : Option String :=
  (List.find? (fun field => Text.sameAscii field.1 name) headers).map (·.2)

end Headers

namespace Field

def accept : String := "Accept"
def authorization : String := "Authorization"
def contentType : String := "Content-Type"
def etag : String := "ETag"
def ifMatch : String := "If-Match"
def ifNoneMatch : String := "If-None-Match"
def raftRequestId : String := "Raft-Request-Id"
def refreshTopology : String := "Refresh-Topology"
def topologyEtag : String := "Topology-Etag"

end Field

def jsonType : String := "application/json"

def bearer (token : String) : String := "Bearer " ++ token

structure Request where
  method : Method
  url : String
  headers : Headers := []
  body : Option Bytes := none
deriving DecidableEq, Repr, Inhabited

structure Response where
  status : UInt16
  headers : Headers := []
  body : Bytes := []
deriving DecidableEq, Repr, Inhabited

namespace Response

def json (status : UInt16) (value : Json.Value) : Response :=
  ⟨status, [("content-type", jsonType)], Text.Utf8.encode value.compact⟩

def etag? (r : Response) : Option String := r.headers.find? Field.etag

def isSuccess (r : Response) : Bool := 200 ≤ r.status && r.status < 300

def isNotModified (r : Response) : Bool := r.status == 304

def bodyText (r : Response) : String := Text.Utf8.lossy r.body

end Response

inductive Failure
  | connection (text : String)
  | timeout
  | unscripted (method url : String)
  | other (text : String)
deriving DecidableEq, Repr, Inhabited

def Failure.message : Failure → String
  | connection text => "Connection failed: " ++ text
  | timeout => "Request timed out"
  | unscripted method url => "No mock rule matched for " ++ method ++ " " ++ url
  | other text => text

abbrev Reply := Except Failure Response

end Http

end ClusterClient
