import ClusterClient.Descriptor
import ClusterClient.Fault
import ClusterClient.Json.Shape
import ClusterClient.Policy

namespace ClusterClient

inductive Setback
  | retry (fault : Fault) (refresh : Bool)
  | terminal (fault : Fault)
deriving Repr, Inhabited

def Setback.fault : Setback → Fault
  | retry fault _ | terminal fault => fault

inductive Disposition
  | success
  | notFound
  | failed (setback : Setback)
deriving Repr, Inhabited

structure ErrorBody where
  kind : Option String := none
  message : Option String := none
  error : Option String := none
  expected : Option String := none
  expectedChangeVector : Option String := none
  actual : Option String := none
  actualChangeVector : Option String := none
deriving DecidableEq, Repr, Inhabited

namespace ErrorBody

open Json (Doc Fields)

def fieldNames : List String :=
  ["Type", "Message", "Error", "Expected", "ExpectedChangeVector", "Actual", "ActualChangeVector"]

def ofDoc? (doc : Doc) : Option ErrorBody := do
  let fields ← Fields.ofDoc? fieldNames doc
  let text (name : String) := fields.optional name none (Doc.option? Doc.text?)
  return {
    kind := ← text "Type"
    message := ← text "Message"
    error := ← text "Error"
    expected := ← text "Expected"
    expectedChangeVector := ← text "ExpectedChangeVector"
    actual := ← text "Actual"
    actualChangeVector := ← text "ActualChangeVector" }

def ofBytes (bytes : Bytes) : ErrorBody := ((Doc.ofBytes? bytes).bind ofDoc?).getD {}

def describe (body : ErrorBody) (response : Http.Response) : String :=
  match body.message.or body.error with
  | some text =>
    match body.kind with
    | some kind => kind ++ ": " ++ text
    | none => text
  | none =>
    let raw := response.bodyText
    if Text.isBlank raw then "HTTP " ++ toString response.status.toNat else raw

end ErrorBody

namespace Http.Response

def errorText (r : Response) : String := (ErrorBody.ofBytes r.body).describe r

def unclassified (r : Response) : Fault := .unclassified r.status r.errorText r.bodyText

/-- The fault of a 409: the versions come from the body, else from the request and the response's
own validator. -/
def conflict (r : Response) (d : Descriptor) : Fault :=
  let body := ErrorBody.ofBytes r.body
  .conflict
    (body.expected.or (body.expectedChangeVector.or d.expectedVersion))
    (body.actual.or (body.actualChangeVector.or r.etag?))
    (body.describe r)

def asksRefresh (r : Response) : Bool :=
  match r.headers.find? Http.Field.refreshTopology with
  | some value => Text.sameAscii (Text.trim value) "true"
  | none => false

end Http.Response

namespace StatusPolicy

def classify (p : StatusPolicy) (d : Descriptor) (r : Http.Response) : Disposition :=
  if r.isSuccess || r.isNotModified then .success
  else if r.status = 404 then .notFound
  else if r.status = 409 then .failed (.terminal (r.conflict d))
  else if r.status ∈ p.refreshing then .failed (.retry r.unclassified true)
  else if r.status ∈ p.retryable then .failed (.retry r.unclassified false)
  else if 400 ≤ r.status ∧ r.status < 500 then .failed (.terminal (.rejected r.status r.errorText))
  else .failed (.terminal r.unclassified)

end StatusPolicy

def Http.Failure.setback (cause : Http.Failure) (url : String) : Setback :=
  .retry (.transport url cause) false

end ClusterClient
