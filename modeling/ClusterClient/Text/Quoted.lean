import ClusterClient.Text.Hex
import ClusterClient.Text.Hidden

namespace ClusterClient.Text.Quoted

def escape (c : Char) : List Char :=
  match c with
  | '"' => ['\\', '"']
  | '\\' => ['\\', '\\']
  | '\t' => ['\\', 't']
  | '\n' => ['\\', 'n']
  | '\r' => ['\\', 'r']
  | '\x00' => ['\\', '0']
  | _ => if isHidden c then ['\\', 'u', '\x7b'] ++ Hex.plain c.toNat ++ ['\x7d'] else [c]

def quote (s : String) : String := String.ofList ('"' :: s.toList.flatMap escape ++ ['"'])

def optional : Option String → String
  | none => "None"
  | some s => "Some(" ++ quote s ++ ")"

end ClusterClient.Text.Quoted
