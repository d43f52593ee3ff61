import ClusterClient.Yaml.Scalar

/-!
The lexical level of YAML text, for block and flow collections, quoted and plain scalars,
comments and the marks between documents. Indentation becomes tokens that open and close blocks.
A key is known as a key only at the colon behind it, so the places where a key may have begun are
remembered, one for each level of flow collections, and the token is put in there.
-/

namespace ClusterClient.Yaml

inductive Token
  | documentStart
  | documentEnd
  | blockSequence
  | blockMapping
  | blockEnd
  | openSequence
  | closeSequence
  | openMapping
  | closeMapping
  | entry
  | comma
  | key
  | value
  | scalar (text : String) (isPlain : Bool)
deriving DecidableEq, Repr, Inhabited

structure Candidate where
  position : Nat
  line : Nat
  column : Nat
  index : Nat
  required : Bool
deriving Repr, Inhabited

structure Scan where
  cursor : Cursor
  tokens : List Token := []
  indents : List Nat := []
  depth : Nat := 0
  keyAllowed : Bool := true
  candidates : List (Option Candidate) := [none]
deriving Repr, Inhabited

namespace Scan

def emit (s : Scan) (t : Token) : Scan := { s with tokens := s.tokens ++ [t] }

def maxKeyLength : Nat := 1024

def reaches (s : Scan) (k : Candidate) : Bool :=
  k.line == s.cursor.line && s.cursor.index ≤ k.index + maxKeyLength

def dropCandidate (s : Scan) : Option Scan :=
  match s.candidates with
  | some k :: outer => if k.required then none else some { s with candidates := none :: outer }
  | _ => some s

def saveCandidate (s : Scan) : Option Scan := do
  if s.keyAllowed then
    let c := s.cursor
    let required := s.depth == 0 && s.indents.head? == some c.column
    let s ← s.dropCandidate
    let here : Candidate := ⟨s.tokens.length, c.line, c.column, c.index, required⟩
    return { s with candidates := some here :: s.candidates.drop 1 }
  else return s

def openBlock (s : Scan) (column position : Nat) (t : Token) : Scan :=
  if s.depth = 0 && s.indents.head?.all (· < column) then
    { s with indents := column :: s.indents, tokens := s.tokens.insertIdx position t }
  else s

def closeBlocks (s : Scan) (column : Option Nat) : Scan :=
  if s.depth = 0 then
    let isOpen (n : Nat) : Bool := match column with
      | some c => c < n
      | none => true
    let closed := s.indents.takeWhile isOpen
    { s with
      indents := s.indents.dropWhile isOpen
      tokens := s.tokens ++ closed.map fun _ => .blockEnd }
  else s

def skipGap : Nat → Scan → Scan
  | 0, s => s
  | fuel + 1, s =>
    match s.cursor.rest with
    | ' ' :: _ => skipGap fuel { s with cursor := s.cursor.next }
    | '\t' :: _ =>
      if 0 < s.depth || !s.keyAllowed then skipGap fuel { s with cursor := s.cursor.next } else s
    | '#' :: _ =>
      skipGap fuel { s with cursor := (s.cursor.span fun c => !isBreak c).2 }
    | c :: _ =>
      if isBreak c then
        skipGap fuel
          { s with cursor := s.cursor.next, keyAllowed := s.keyAllowed || s.depth == 0 }
      else s
    | [] => s

def documentMark (s : Scan) (t : Token) : Option Scan := do
  let s ← (s.closeBlocks none).dropCandidate
  return { s.emit t with cursor := s.cursor.skip 3, keyAllowed := false }

def openFlow (s : Scan) (t : Token) : Option Scan := do
  let s ← s.saveCandidate
  return { s.emit t with
    cursor := s.cursor.next
    depth := s.depth + 1
    candidates := none :: s.candidates
    keyAllowed := true }

def closeFlow (s : Scan) (t : Token) : Option Scan := do
  let s ← s.dropCandidate
  let candidates := if s.depth = 0 then s.candidates else s.candidates.drop 1
  return { s.emit t with
    cursor := s.cursor.next, depth := s.depth - 1, candidates, keyAllowed := false }

def comma (s : Scan) : Option Scan := do
  let s ← s.dropCandidate
  return { s.emit .comma with cursor := s.cursor.next, keyAllowed := true }

def entry (s : Scan) : Option Scan := do
  if s.depth = 0 && !s.keyAllowed then none
  let s := s.openBlock s.cursor.column s.tokens.length .blockSequence
  let s ← s.dropCandidate
  return { s.emit .entry with cursor := s.cursor.next, keyAllowed := true }

def markedKey (s : Scan) : Option Scan := do
  if s.depth = 0 && !s.keyAllowed then none
  let s := s.openBlock s.cursor.column s.tokens.length .blockMapping
  let s ← s.dropCandidate
  return { s.emit .key with cursor := s.cursor.next, keyAllowed := s.depth == 0 }

def value (s : Scan) : Option Scan := do
  match s.candidates with
  | some k :: outer =>
    if s.reaches k then
      let s := { s with
        tokens := s.tokens.insertIdx k.position .key
        candidates := none :: outer }
      let s := s.openBlock k.column k.position .blockMapping
      return { s.emit .value with cursor := s.cursor.next, keyAllowed := false }
    else if k.required then none
    else plainValue { s with candidates := none :: outer }
  | _ => plainValue s
where
  plainValue (s : Scan) : Option Scan := do
    if s.depth = 0 && !s.keyAllowed then none
    let s := s.openBlock s.cursor.column s.tokens.length .blockMapping
    return { s.emit .value with cursor := s.cursor.next, keyAllowed := s.depth == 0 }

def scalar (s : Scan) (first : Char) : Option Scan := do
  let s ← s.saveCandidate
  let fuel := s.cursor.rest.length + 1
  match first with
  | '\'' =>
    let (text, after) ← singleQuoted fuel s.cursor.next []
    return { s.emit (.scalar (String.ofList text) false) with cursor := after, keyAllowed := false }
  | '"' =>
    let (text, after) ← doubleQuoted fuel s.cursor.next []
    return { s.emit (.scalar (String.ofList text) false) with cursor := after, keyAllowed := false }
  | _ =>
    let indent := match s.indents with
      | n :: _ => n + 1
      | [] => 0
    let (text, after, newLine) ← plain (0 < s.depth) indent fuel s.cursor {} []
    let s := s.emit (.scalar (String.ofList text) true)
    return { s with cursor := after, keyAllowed := newLine }

def isIndicator (c : Char) : Bool := "-?:,[]\x7b\x7d#&*!|>'\"%@\x60".toList.contains c

def beginsPlain (s : Scan) (c : Char) (rest : List Char) : Bool :=
  !isIndicator c || (c = '-' && !rest.head?.any isBlank) ||
    (s.depth == 0 && (c = '?' || c = ':') && !Cursor.atEdge rest)

def token (s : Scan) (c : Char) (rest : List Char) : Option Scan :=
  let edge := Cursor.atEdge rest
  if s.cursor.atMark '-' then s.documentMark .documentStart
  else if s.cursor.atMark '.' then s.documentMark .documentEnd
  else if c = '%' && s.cursor.column = 0 then none
  else if c = '[' then s.openFlow .openSequence
  else if c = '\x7b' then s.openFlow .openMapping
  else if c = ']' then s.closeFlow .closeSequence
  else if c = '\x7d' then s.closeFlow .closeMapping
  else if c = ',' then s.comma
  else if c = '-' && edge then s.entry
  else if c = '?' && (0 < s.depth || edge) then s.markedKey
  else if c = ':' && (0 < s.depth || edge) then s.value
  else if c = '\'' || c = '"' || s.beginsPlain c rest then s.scalar c
  else none

def finish (s : Scan) : Option Scan := (s.closeBlocks none).dropCandidate

def run : Nat → Scan → Option Scan
  | 0, _ => none
  | fuel + 1, s =>
    let s := s.skipGap (s.cursor.rest.length + 1)
    let s := s.closeBlocks (some s.cursor.column)
    match s.cursor.rest with
    | [] => s.finish
    | c :: rest => (s.token c rest).bind (run fuel)

end Scan

def tokens? (text : String) : Option (List Token) :=
  let chars := match text.toList with
    | '\uFEFF' :: rest => rest
    | chars => chars
  if chars.all isAllowed then
    let rest := unifyBreaks chars
    (Scan.run (rest.length + 2) { cursor := { rest } }).map (·.tokens)
  else none

end ClusterClient.Yaml
