import ClusterClient.Text.Hex

/-!
The lexical level of JSON text: a machine stepped one character at a time that emits tokens. Its
input is decoded text in which `none` stands for a stretch of ill-formed bytes; those are let
through inside string literals only, where they stay visible as `Piece.broken`.
-/

namespace ClusterClient.Json

inductive Piece
  | char (c : Char)
  | unit (u : Nat)
  | broken
deriving DecidableEq, Repr, Inhabited

structure Numeral where
  negative : Bool
  whole : List Nat
  fraction : List Nat
  exponent : Option Int
deriving DecidableEq, Repr, Inhabited

inductive Token
  | openArray
  | closeArray
  | openObject
  | closeObject
  | comma
  | colon
  | null
  | bool (b : Bool)
  | number (n : Numeral)
  | string (pieces : List Piece)
deriving DecidableEq, Repr, Inhabited

def digitsValue (digits : List Nat) : Nat := digits.foldl (fun n d => n * 10 + d) 0

inductive Lexing
  | between
  | word (rest : List Char) (token : Token)
  | text (done : List Piece)
  | escape (done : List Piece)
  | unit (done : List Piece) (owed : Nat) (value : Nat)
  | minus
  | zero (negative : Bool)
  | whole (negative : Bool) (digits : List Nat)
  | point (negative : Bool) (whole : List Nat)
  | fraction (negative : Bool) (whole digits : List Nat)
  | mark (negative : Bool) (whole fraction : List Nat)
  | sign (negative : Bool) (whole fraction : List Nat) (down : Bool)
  | exponent (negative : Bool) (whole fraction : List Nat) (down : Bool) (digits : List Nat)
deriving DecidableEq, Repr, Inhabited

namespace Lexing

def digit? (c : Char) : Option Nat :=
  if '0' ≤ c ∧ c ≤ '9' then some (c.toNat - 48) else none

def isBlank (c : Char) : Bool := c = ' ' || c = '\t' || c = '\n' || c = '\r'

def firstPrintable : Char := ' '

def shortEscape? (c : Char) : Option Char :=
  match c with
  | '"' => some '"'
  | '\\' => some '\\'
  | '/' => some '/'
  | 'b' => some '\x08'
  | 'f' => some '\x0c'
  | 'n' => some '\n'
  | 'r' => some '\r'
  | 't' => some '\t'
  | _ => none

def numeral? : Lexing → Option Numeral
  | zero negative => some ⟨negative, [0], [], none⟩
  | whole negative digits => some ⟨negative, digits.reverse, [], none⟩
  | fraction negative w digits => some ⟨negative, w, digits.reverse, none⟩
  | exponent negative w f down digits =>
    let n : Int := digitsValue digits.reverse
    some ⟨negative, w, f, some (if down then -n else n)⟩
  | _ => none

def start (c : Char) : Option (Lexing × List Token) :=
  if isBlank c then some (between, [])
  else match c with
  | '[' => some (between, [.openArray])
  | ']' => some (between, [.closeArray])
  | '\x7b' => some (between, [.openObject])
  | '\x7d' => some (between, [.closeObject])
  | ',' => some (between, [.comma])
  | ':' => some (between, [.colon])
  | '"' => some (text [], [])
  | 'n' => some (word ['u', 'l', 'l'] .null, [])
  | 't' => some (word ['r', 'u', 'e'] (.bool true), [])
  | 'f' => some (word ['a', 'l', 's', 'e'] (.bool false), [])
  | '-' => some (minus, [])
  | '0' => some (zero false, [])
  | _ => (digit? c).map fun d => (whole false [d], [])

def inNumber (c : Char) : Lexing → Option Lexing
  | minus => (digit? c).map fun d => if d = 0 then zero true else whole true [d]
  | zero negative =>
    match c with
    | '.' => some (point negative [0])
    | 'e' | 'E' => some (mark negative [0] [])
    | _ => none
  | whole negative digits =>
    match c with
    | '.' => some (point negative digits.reverse)
    | 'e' | 'E' => some (mark negative digits.reverse [])
    | _ => (digit? c).map fun d => whole negative (d :: digits)
  | point negative w => (digit? c).map fun d => fraction negative w [d]
  | fraction negative w digits =>
    match c with
    | 'e' | 'E' => some (mark negative w digits.reverse)
    | _ => (digit? c).map fun d => fraction negative w (d :: digits)
  | mark negative w f =>
    match c with
    | '+' => some (sign negative w f false)
    | '-' => some (sign negative w f true)
    | _ => (digit? c).map fun d => exponent negative w f false [d]
  | sign negative w f down => (digit? c).map fun d => exponent negative w f down [d]
  | exponent negative w f down digits =>
    (digit? c).map fun d => exponent negative w f down (d :: digits)
  | _ => none

/-- A character that does not go on with a number ends it and is read as a first character,
except for a digit after a leading zero. -/
def afterNumber (state : Lexing) (c : Char) : Option (Lexing × List Token) := do
  match inNumber c state with
  | some next => return (next, [])
  | none =>
    let n ← state.numeral?
    if (digit? c).isSome then none
    let (next, tokens) ← start c
    return (next, .number n :: tokens)

def step (state : Lexing) (input : Option Char) : Option (Lexing × List Token) :=
  match state, input with
  | text done, none => some (text (.broken :: done), [])
  | _, none => none
  | between, some c => start c
  | word [] _, some _ => none
  | word (expected :: rest) token, some c =>
    if c ≠ expected then none
    else match rest with
    | [] => some (between, [token])
    | _ => some (word rest token, [])
  | text done, some c =>
    if c = '"' then some (between, [.string done.reverse])
    else if c = '\\' then some (escape done, [])
    else if c < firstPrintable then none
    else some (text (.char c :: done), [])
  | escape done, some c =>
    if c = 'u' then some (unit done 4 0, [])
    else (shortEscape? c).map fun e => (text (.char e :: done), [])
  | unit done owed value, some c => do
    let d ← Text.Hex.value? c
    let n := value * 16 + d
    return (if owed ≤ 1 then text (.unit n :: done) else unit done (owed - 1) n, [])
  | state, some c => afterNumber state c

end Lexing

abbrev Lexed := Lexing × List Token

def lexFrom : Lexing → List (Option Char) → Option Lexed
  | state, [] => some (state, [])
  | state, input :: rest => do
    let (next, tokens) ← state.step input
    let (final, more) ← lexFrom next rest
    return (final, tokens ++ more)

def tokens? (input : List (Option Char)) : Option (List Token) := do
  let (final, tokens) ← lexFrom .between input
  match final with
  | .between => return tokens
  | state => return tokens ++ [.number (← state.numeral?)]

end ClusterClient.Json
