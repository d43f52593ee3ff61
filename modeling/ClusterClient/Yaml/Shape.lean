import ClusterClient.Yaml.Tree

namespace ClusterClient.Yaml.Tree

def text? : Tree → Option String
  | .scalar text _ => some text
  | _ => none

def isNull : Tree → Bool
  | .scalar text true => text ∈ ["", "~", "null", "Null", "NULL"]
  | _ => false

def option? (read : Tree → Option α) (t : Tree) : Option (Option α) :=
  if t.isNull then some none else (read t).map some

def bool? : Tree → Option Bool
  | .scalar text true =>
    if text ∈ ["true", "True", "TRUE"] then some true
    else if text ∈ ["false", "False", "FALSE"] then some false
    else none
  | _ => none

def digits? (base : Nat) (s : List Char) : Option Nat :=
  if s.isEmpty then none
  else s.foldlM (fun n c => do
    let d ← Text.Hex.value? c
    if d < base then some (n * base + d) else none) 0

/-- The number that a plain scalar spells: a plus sign or not, then digits of base sixteen, eight
or two behind their mark, or decimal digits. More than one decimal digit may not begin with a
zero. -/
def number? (s : List Char) : Option Nat :=
  let body := match s with
    | '+' :: rest => rest
    | _ => s
  match body with
  | '0' :: 'x' :: rest => digits? 16 rest
  | '0' :: 'o' :: rest => digits? 8 rest
  | '0' :: 'b' :: rest => digits? 2 rest
  | '0' :: _ :: _ => none
  | _ => digits? 10 body

def natUpTo? (max : Nat) : Tree → Option Nat
  | .scalar text true => do
    let n ← number? text.toList
    if n ≤ max then some n else none
  | _ => none

def uint64? (t : Tree) : Option UInt64 := (t.natUpTo? (UInt64.size - 1)).map UInt64.ofNat

def uint16? (t : Tree) : Option UInt16 := (t.natUpTo? (UInt16.size - 1)).map UInt16.ofNat

def list? (read : Tree → Option α) : Tree → Option (List α)
  | .list items => items.mapM read
  | .scalar "" true => some []
  | _ => none

abbrev Fields := List (String × Tree)

namespace Fields

def ofMembers? (names : List String) : List (Tree × Tree) → Option Fields
  | [] => some []
  | (key, item) :: rest => do
    let name ← key.text?
    let fields ← ofMembers? names rest
    if name ∈ names then
      if (List.find? (·.1 = name) fields).isSome then none else some ((name, item) :: fields)
    else some fields

def ofTree? (names : List String) : Tree → Option Fields
  | .map members => ofMembers? names members
  | .scalar "" true => some []
  | _ => none

def optional (fields : Fields) (name : String) (default : α) (read : Tree → Option α) :
    Option α :=
  match List.find? (·.1 = name) fields with
  | none => some default
  | some entry => read entry.2

end Fields

end ClusterClient.Yaml.Tree
