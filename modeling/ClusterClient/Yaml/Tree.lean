import ClusterClient.Yaml.Token

/-!
YAML documents as trees: scalars with their text and whether they were plain, lists, and maps as
lists of pairs in their order. A text holds one document at most; where nothing is written the
document or the value is an empty plain scalar.
-/

namespace ClusterClient.Yaml

inductive Tree
  | scalar (text : String) (isPlain : Bool)
  | list (items : List Tree)
  | map (members : List (Tree × Tree))
deriving Repr, Inhabited

namespace Tree

def empty : Tree := .scalar "" true

end Tree

abbrev Reader (α : Type) := List Token → Option (α × List Token)

mutual

/-- A node; inside flow collections no block can begin, and in the place of a mapping's value a
sequence may stand without an indentation of its own. -/
def node : Nat → Bool → Bool → Reader Tree
  | 0, _, _, _ => none
  | fuel + 1, inBlock, unindented, tokens =>
    match tokens with
    | .scalar text isPlain :: rest => some (.scalar text isPlain, rest)
    | .openSequence :: rest => (flowItems fuel true [] rest).map fun (l, r) => (.list l, r)
    | .openMapping :: rest => (flowMembers fuel true [] rest).map fun (l, r) => (.map l, r)
    | .blockSequence :: rest =>
      if inBlock then (blockItems fuel [] rest).map fun (l, r) => (.list l, r) else none
    | .blockMapping :: rest =>
      if inBlock then (blockMembers fuel [] rest).map fun (l, r) => (.map l, r) else none
    | .entry :: _ =>
      if unindented then (looseItems fuel [] tokens).map fun (l, r) => (.list l, r) else none
    | _ => none

def nodeUnless : Nat → Bool → Bool → List Token → Reader Tree
  | 0, _, _, _, _ => none
  | fuel + 1, inBlock, unindented, stops, tokens =>
    match tokens with
    | [] => some (.empty, [])
    | t :: _ =>
      if t ∈ stops then some (.empty, tokens) else node fuel inBlock unindented tokens

def blockItems : Nat → List Tree → Reader (List Tree)
  | 0, _, _ => none
  | fuel + 1, done, tokens =>
    match tokens with
    | .entry :: rest => do
      let (item, rest) ← nodeUnless fuel true false [.entry, .blockEnd] rest
      blockItems fuel (item :: done) rest
    | .blockEnd :: rest => some (done.reverse, rest)
    | _ => none

def looseItems : Nat → List Tree → Reader (List Tree)
  | 0, _, _ => none
  | fuel + 1, done, tokens =>
    match tokens with
    | .entry :: rest => do
      let (item, rest) ← nodeUnless fuel true false [.entry, .key, .value, .blockEnd] rest
      looseItems fuel (item :: done) rest
    | _ => some (done.reverse, tokens)

def blockMembers : Nat → List (Tree × Tree) → Reader (List (Tree × Tree))
  | 0, _, _ => none
  | fuel + 1, done, tokens =>
    match tokens with
    | .key :: rest => do
      let (name, rest) ← nodeUnless fuel true true [.key, .value, .blockEnd] rest
      let (item, rest) ← match rest with
        | .value :: rest => nodeUnless fuel true true [.key, .value, .blockEnd] rest
        | _ => some (.empty, rest)
      blockMembers fuel ((name, item) :: done) rest
    | .blockEnd :: rest => some (done.reverse, rest)
    | _ => none

def flowValue : Nat → List Token → Reader Tree
  | 0, _, _ => none
  | fuel + 1, stops, tokens =>
    match tokens with
    | .value :: rest => nodeUnless fuel false false stops rest
    | _ => some (.empty, tokens)

def flowItems : Nat → Bool → List Tree → Reader (List Tree)
  | 0, _, _, _ => none
  | fuel + 1, isFirst, done, tokens =>
    match tokens with
    | .closeSequence :: rest => some (done.reverse, rest)
    | _ => do
      let tokens ← if isFirst then some tokens else afterComma tokens
      match tokens with
      | .closeSequence :: rest => return (done.reverse, rest)
      | .key :: rest => do
        let stops := [.comma, .closeSequence]
        let (name, rest) ← nodeUnless fuel false false (.value :: stops) rest
        let (item, rest) ← flowValue fuel stops rest
        flowItems fuel false (.map [(name, item)] :: done) rest
      | _ => do
        let (item, rest) ← node fuel false false tokens
        flowItems fuel false (item :: done) rest

def flowMembers : Nat → Bool → List (Tree × Tree) → Reader (List (Tree × Tree))
  | 0, _, _, _ => none
  | fuel + 1, isFirst, done, tokens =>
    match tokens with
    | .closeMapping :: rest => some (done.reverse, rest)
    | _ => do
      let tokens ← if isFirst then some tokens else afterComma tokens
      match tokens with
      | .closeMapping :: rest => return (done.reverse, rest)
      | .key :: rest => do
        let stops := [.comma, .closeMapping]
        let (name, rest) ← nodeUnless fuel false false (.value :: stops) rest
        let (item, rest) ← flowValue fuel stops rest
        flowMembers fuel false ((name, item) :: done) rest
      | _ => do
        let (name, rest) ← node fuel false false tokens
        flowMembers fuel false ((name, .empty) :: done) rest

def afterComma : List Token → Option (List Token)
  | .comma :: rest => some rest
  | _ => none

end

namespace Tree

def document (tokens : List Token) : Option (Tree × List Token) :=
  let fuel := 4 * (tokens.length + 1)
  match tokens with
  | [] => some (.empty, [])
  | .documentStart :: rest =>
    nodeUnless fuel true false [.documentStart, .documentEnd] rest
  | _ => node fuel true false tokens

def ofText? (text : String) : Option Tree := do
  let (tree, rest) ← document (← tokens? text)
  match rest.dropWhile (· = .documentEnd) with
  | [] => some tree
  | _ => none

end Tree

end ClusterClient.Yaml
