import ClusterClient.Text.Hex
import ClusterClient.Yaml.Cursor

namespace ClusterClient.Yaml

structure Gap where
  blanks : List Char := []
  first : Option Char := none
  further : List Char := []

namespace Gap

def hasBreak (g : Gap) : Bool := g.first.isSome

def text (g : Gap) : List Char :=
  match g.first with
  | none => g.blanks
  | some '\n' => if g.further.isEmpty then [' '] else g.further
  | some c => c :: g.further

def add (g : Gap) (c : Char) : Gap :=
  if isBreak c then
    match g.first with
    | none => { g with blanks := [], first := some c }
    | some _ => { g with further := g.further ++ [c] }
  else if g.hasBreak then g
  else { g with blanks := g.blanks ++ [c] }

def read (c : Cursor) : Gap × Cursor :=
  let (taken, after) := c.span fun ch => isBlank ch || isBreak ch
  (taken.foldl add {}, after)

def hasTabLeftOf (column : Nat) : Option Nat → List Char → Bool
  | _, [] => false
  | here, ch :: rest =>
    if isBreak ch then hasTabLeftOf column (some 0) rest
    else match here with
      | none => hasTabLeftOf column none rest
      | some n => (ch = '\t' && n < column) || hasTabLeftOf column (some (n + 1)) rest

end Gap

def singleQuoted : Nat → Cursor → List Char → Option (List Char × Cursor)
  | 0, _, _ => none
  | fuel + 1, c, done =>
    if c.atDocumentMark then none
    else match c.rest with
    | [] => none
    | '\'' :: '\'' :: _ => singleQuoted fuel (c.skip 2) (done ++ ['\''])
    | '\'' :: _ => some (done, c.next)
    | ch :: _ =>
      if isBlank ch || isBreak ch then
        let (gap, after) := Gap.read c
        singleQuoted fuel after (done ++ gap.text)
      else singleQuoted fuel c.next (done ++ [ch])

def escape? (c : Char) : Option Char :=
  match c with
  | '0' => some '\x00'
  | 'a' => some '\x07'
  | 'b' => some '\x08'
  | 't' | '\t' => some '\t'
  | 'n' => some '\n'
  | 'v' => some '\x0b'
  | 'f' => some '\x0c'
  | 'r' => some '\r'
  | 'e' => some '\x1b'
  | ' ' => some ' '
  | '"' => some '"'
  | '/' => some '/'
  | '\\' => some '\\'
  | 'N' => some '\u0085'
  | '_' => some '\u00a0'
  | 'L' => some '\u2028'
  | 'P' => some '\u2029'
  | _ => none

def escapeWidth? (c : Char) : Option Nat :=
  match c with
  | 'x' => some 2
  | 'u' => some 4
  | 'U' => some 8
  | _ => none

def numbered? (digits : List Char) (width : Nat) : Option Char := do
  if digits.length ≠ width then none
  let n ← digits.foldlM (fun n d => (Text.Hex.value? d).map (n * 16 + ·)) 0
  if n.isValidChar then some (Char.ofNat n) else none

def doubleQuoted : Nat → Cursor → List Char → Option (List Char × Cursor)
  | 0, _, _ => none
  | fuel + 1, c, done =>
    if c.atDocumentMark then none
    else match c.rest with
    | [] => none
    | '"' :: _ => some (done, c.next)
    | '\\' :: e :: more =>
      if isBreak e then
        let (gap, after) := Gap.read (c.skip 2)
        doubleQuoted fuel after (done ++ gap.first.toList ++ gap.further)
      else match escape? e with
      | some ch => doubleQuoted fuel (c.skip 2) (done ++ [ch])
      | none => do
        let width ← escapeWidth? e
        let ch ← numbered? (more.take width) width
        doubleQuoted fuel (c.skip (2 + width)) (done ++ [ch])
    | ch :: _ =>
      if isBlank ch || isBreak ch then
        let (gap, after) := Gap.read c
        doubleQuoted fuel after (done ++ gap.text)
      else doubleQuoted fuel c.next (done ++ [ch])

def isFlowMark (c : Char) : Bool :=
  c = ',' || c = '[' || c = ']' || c = '\x7b' || c = '\x7d'

/-- A stretch of a plain scalar without blanks: it ends before a colon at an edge and, inside
flow collections, before their marks; there a colon in front of such a mark is an error. -/
def plainWord (inFlow : Bool) : List Char → Option (List Char)
  | [] => some []
  | c :: rest =>
    if isBlank c || isBreak c then some []
    else if c = ':' && inFlow && (rest.head?.any fun d => isFlowMark d || d = '?') then none
    else if c = ':' && Cursor.atEdge rest then some []
    else if inFlow && isFlowMark c then some []
    else (plainWord inFlow rest).map (c :: ·)

def plain (inFlow : Bool) (indent : Nat) :
    Nat → Cursor → Gap → List Char → Option (List Char × Cursor × Bool)
  | 0, _, _, _ => none
  | fuel + 1, c, gap, done =>
    if c.atDocumentMark || c.rest.head? = some '#' then some (done, c, gap.hasBreak)
    else do
      let word ← plainWord inFlow c.rest
      if word.isEmpty then return (done, c, gap.hasBreak)
      let done := done ++ gap.text ++ word
      let c := c.skip word.length
      if c.rest.isEmpty || !Cursor.atEdge c.rest then return (done, c, false)
      if Gap.hasTabLeftOf indent none (c.span fun ch => isBlank ch || isBreak ch).1 then none
      let (gap, after) := Gap.read c
      if !inFlow && after.column < indent then return (done, after, gap.hasBreak)
      plain inFlow indent fuel after gap done

end ClusterClient.Yaml
