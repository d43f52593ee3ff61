import ClusterClient.Json.Value

namespace ClusterClient.Json

namespace Doc

def text? : Doc → Option String
  | .string s => Literal.text? s
  | _ => none

def bool? : Doc → Option Bool
  | .bool b => some b
  | _ => none

def intBetween? (low high : Int) : Doc → Option Int
  | .number n => do
    let i ← n.integer?
    if low ≤ i ∧ i ≤ high then some i else none
  | _ => none

def int64? (doc : Doc) : Option Int64 :=
  (doc.intBetween? Int64.minValue.toInt Int64.maxValue.toInt).map Int64.ofInt

def uint64? (doc : Doc) : Option UInt64 :=
  (doc.intBetween? 0 (UInt64.size - 1)).map fun i => UInt64.ofNat i.toNat

def uint32? (doc : Doc) : Option UInt32 :=
  (doc.intBetween? 0 (UInt32.size - 1)).map fun i => UInt32.ofNat i.toNat

def uint16? (doc : Doc) : Option UInt16 :=
  (doc.intBetween? 0 (UInt16.size - 1)).map fun i => UInt16.ofNat i.toNat

def option? (read : Doc → Option α) : Doc → Option (Option α)
  | .null => some none
  | doc => (read doc).map some

def list? (read : Doc → Option α) : Doc → Option (List α)
  | .array items => items.mapM read
  | _ => none

def texts? : Doc → Option (List (String × String))
  | .object members =>
    let read (member : Literal × Doc) : Option (String × String) := do
      return (← Literal.text? member.1, ← member.2.text?)
    (members.mapM read).map Rising.ofList
  | _ => none

def caseName? : Doc → Option String
  | .string s => Literal.text? s
  | .object [(key, .null)] => Literal.text? key
  | _ => none

end Doc

abbrev Fields := List (String × Doc)

namespace Fields

def ofMembers? (names : List String) : List (Literal × Doc) → Option Fields
  | [] => some []
  | (key, item) :: rest => do
    let name ← Literal.text? key
    let fields ← ofMembers? names rest
    if name ∈ names then
      if (fields.find? (·.1 = name)).isSome then none else some ((name, item) :: fields)
    else some fields

def ofDoc? (names : List String) : Doc → Option Fields
  | .object members => ofMembers? names members
  | .array items => if items.length ≤ names.length then some (names.zip items) else none
  | _ => none

def find? (fields : Fields) (name : String) : Option Doc :=
  (List.find? (·.1 = name) fields).map (·.2)

def required (fields : Fields) (name : String) (read : Doc → Option α) : Option α :=
  (fields.find? name).bind read

def optional (fields : Fields) (name : String) (default : α) (read : Doc → Option α) :
    Option α :=
  match fields.find? name with
  | none => some default
  | some doc => read doc

end Fields

end ClusterClient.Json
