import ClusterClient.Json.Doc
import ClusterClient.Json.Number
import ClusterClient.Rising

namespace ClusterClient.Json

inductive Value
  | null
  | bool (b : Bool)
  | number (n : Number)
  | string (s : String)
  | array (items : List Value)
  | object (members : List (String × Value))
deriving Repr, Inhabited

namespace Literal

def joinPair (high low : Nat) : Char :=
  Char.ofNat (0x10000 + (high - 0xD800) * 0x400 + (low - 0xDC00))

def isHigh (u : Nat) : Bool := 0xD800 ≤ u && u < 0xDC00
def isLow (u : Nat) : Bool := 0xDC00 ≤ u && u < 0xE000

def chars? : Literal → Option (List Char)
  | [] => some []
  | .char c :: rest => (chars? rest).map (c :: ·)
  | .broken :: _ => none
  | .unit u :: rest =>
    if isHigh u then
      match rest with
      | .unit v :: more =>
        if isLow v then (chars? more).map (joinPair u v :: ·) else none
      | _ => none
    else if isLow u then none
    else (chars? rest).map (Char.ofNat u :: ·)

def text? (s : Literal) : Option String := (chars? s).map String.ofList

end Literal

def maxDepth : Nat := 127

mutual

def Doc.valueWithin (room : Nat) : Doc → Option Value
  | .null => some .null
  | .bool b => some (.bool b)
  | .number n => n.number?.map .number
  | .string s => (Literal.text? s).map .string
  | .array items =>
    match room with
    | 0 => none
    | room + 1 => (itemsWithin room items).map .array
  | .object members =>
    match room with
    | 0 => none
    | room + 1 => (membersWithin room members).map fun entries => .object (Rising.ofList entries)

def itemsWithin (room : Nat) : List Doc → Option (List Value)
  | [] => some []
  | item :: rest => do
    let value ← item.valueWithin room
    return value :: (← itemsWithin room rest)

def membersWithin (room : Nat) : List (Literal × Doc) → Option (List (String × Value))
  | [] => some []
  | (key, item) :: rest => do
    let name ← Literal.text? key
    let value ← item.valueWithin room
    return (name, value) :: (← membersWithin room rest)

end

def Doc.value? (doc : Doc) : Option Value := doc.valueWithin maxDepth

namespace Value

def ofBytes? (bytes : List UInt8) : Option Value := (Doc.ofBytes? bytes).bind Doc.value?

def ofText? (text : String) : Option Value := (Doc.ofText? text).bind Doc.value?

def int (i : Int) : Value := .number (.integer i)

def nat (n : Nat) : Value := int n

def optional : Option String → Value
  | none => .null
  | some s => .string s

end Value

end ClusterClient.Json
