namespace ClusterClient

inductive Role
  | member
  | promotable
  | watcher
deriving DecidableEq, Repr, Inhabited

namespace Role

def label : Role → String
  | member => "member"
  | promotable => "promotable"
  | watcher => "watcher"

def wireName : Role → String
  | member => "Member"
  | promotable => "Promotable"
  | watcher => "Watcher"

def ofWireName? : String → Option Role
  | "Member" => some member
  | "Promotable" => some promotable
  | "Watcher" => some watcher
  | _ => none

theorem ofWireName?_wireName (r : Role) : ofWireName? r.wireName = some r := by
  cases r <;> rfl

end Role

structure Node where
  url : String
  tag : String
  database : Option String := none
  role : Role := .member
deriving DecidableEq, Repr, Inhabited

namespace Node

def dropSlashes (s : List Char) : List Char := (s.reverse.dropWhile (· = '/')).reverse

def baseUrl (n : Node) : String := String.ofList (dropSlashes n.url.toList)

def label (n : Node) : String := n.tag ++ " (" ++ n.url ++ ")"

def seedTag : String := "?"

def seed (url : String) (database : Option String) : Node := ⟨url, seedTag, database, .member⟩

end Node

end ClusterClient
