import ClusterClient.Json.Value

namespace ClusterClient.Json

def escapeChar (c : Char) : List Char :=
  match c with
  | '"' => ['\\', '"']
  | '\\' => ['\\', '\\']
  | '\x08' => ['\\', 'b']
  | '\x0c' => ['\\', 'f']
  | '\n' => ['\\', 'n']
  | '\r' => ['\\', 'r']
  | '\t' => ['\\', 't']
  | _ => if c < ' ' then '\\' :: 'u' :: Text.Hex.fixed 4 c.toNat else [c]

def writeString (s : String) : List Char := '"' :: s.toList.flatMap escapeChar ++ ['"']

mutual

def Value.write : Value → List Char
  | .null => ['n', 'u', 'l', 'l']
  | .bool true => ['t', 'r', 'u', 'e']
  | .bool false => ['f', 'a', 'l', 's', 'e']
  | .number n => n.text
  | .string s => writeString s
  | .array [] => ['[', ']']
  | .array (item :: rest) => '[' :: item.write ++ writeItems rest ++ [']']
  | .object [] => ['\x7b', '\x7d']
  | .object ((key, item) :: rest) =>
    '\x7b' :: writeString key ++ ':' :: item.write ++ writeMembers rest ++ ['\x7d']

def writeItems : List Value → List Char
  | [] => []
  | item :: rest => ',' :: item.write ++ writeItems rest

def writeMembers : List (String × Value) → List Char
  | [] => []
  | (key, item) :: rest => ',' :: writeString key ++ ':' :: item.write ++ writeMembers rest

end

def newLine (level : Nat) : List Char := '\n' :: List.replicate (2 * level) ' '

mutual

def Value.spread (level : Nat) : Value → List Char
  | .array [] => ['[', ']']
  | .array (item :: rest) =>
    '[' :: newLine (level + 1) ++ item.spread (level + 1) ++ spreadItems (level + 1) rest ++
      newLine level ++ [']']
  | .object [] => ['\x7b', '\x7d']
  | .object ((key, item) :: rest) =>
    '\x7b' :: newLine (level + 1) ++ writeString key ++ ':' :: ' ' :: item.spread (level + 1) ++
      spreadMembers (level + 1) rest ++ newLine level ++ ['\x7d']
  | scalar => scalar.write

def spreadItems (level : Nat) : List Value → List Char
  | [] => []
  | item :: rest => ',' :: newLine level ++ item.spread level ++ spreadItems level rest

def spreadMembers (level : Nat) : List (String × Value) → List Char
  | [] => []
  | (key, item) :: rest =>
    ',' :: newLine level ++ writeString key ++ ':' :: ' ' :: item.spread level ++
      spreadMembers level rest

end

namespace Value

def compact (v : Value) : String := String.ofList v.write

def pretty (v : Value) : String := String.ofList (v.spread 0)

end Value

end ClusterClient.Json
