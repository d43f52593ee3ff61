/-!
UTF-8 over lists of bytes. `encode` writes characters, `decode` reads bytes into characters and
marks every longest ill-formed stretch once, which is what both a strict reading (`text?`) and a
forgiving one (`lossy`) are made of.
-/

namespace ClusterClient.Text.Utf8

def encodeChar (c : Char) : List UInt8 :=
  let n := c.toNat
  if n < 0x80 then [UInt8.ofNat n]
  else if n < 0x800 then
    [UInt8.ofNat (0xC0 + n / 0x40), UInt8.ofNat (0x80 + n % 0x40)]
  else if n < 0x10000 then
    [UInt8.ofNat (0xE0 + n / 0x1000), UInt8.ofNat (0x80 + n / 0x40 % 0x40),
      UInt8.ofNat (0x80 + n % 0x40)]
  else
    [UInt8.ofNat (0xF0 + n / 0x40000), UInt8.ofNat (0x80 + n / 0x1000 % 0x40),
      UInt8.ofNat (0x80 + n / 0x40 % 0x40), UInt8.ofNat (0x80 + n % 0x40)]

def encode (s : String) : List UInt8 := s.toList.flatMap encodeChar

structure Begun where
  owed : Nat
  least : Nat
  greatest : Nat
  value : Nat

inductive Lead
  | whole (c : Char)
  | begins (b : Begun)
  | never

/-- The first byte fixes the length, and for some values narrows the second byte so that no
number is written longer than needed, none is a surrogate and none lies above the last one. -/
def lead (b : Nat) : Lead :=
  if b < 0x80 then .whole (Char.ofNat b)
  else if b < 0xC2 then .never
  else if b < 0xE0 then .begins ⟨1, 0x80, 0xBF, b - 0xC0⟩
  else if b = 0xE0 then .begins ⟨2, 0xA0, 0xBF, 0⟩
  else if b = 0xED then .begins ⟨2, 0x80, 0x9F, 0xD⟩
  else if b < 0xF0 then .begins ⟨2, 0x80, 0xBF, b - 0xE0⟩
  else if b = 0xF0 then .begins ⟨3, 0x90, 0xBF, 0⟩
  else if b < 0xF4 then .begins ⟨3, 0x80, 0xBF, b - 0xF0⟩
  else if b = 0xF4 then .begins ⟨3, 0x80, 0x8F, 4⟩
  else .never

structure Reading where
  begun : Option Begun
  done : List (Option Char)

def Reading.start (done : List (Option Char)) (b : Nat) : Reading :=
  match lead b with
  | .whole c => ⟨none, some c :: done⟩
  | .begins begun => ⟨some begun, done⟩
  | .never => ⟨none, none :: done⟩

def Reading.step (r : Reading) (byte : UInt8) : Reading :=
  let b := byte.toNat
  match r.begun with
  | none => .start r.done b
  | some begun =>
    if begun.least ≤ b ∧ b ≤ begun.greatest then
      let value := begun.value * 0x40 + (b - 0x80)
      if begun.owed ≤ 1 then ⟨none, some (Char.ofNat value) :: r.done⟩
      else ⟨some ⟨begun.owed - 1, 0x80, 0xBF, value⟩, r.done⟩
    else .start (none :: r.done) b

def Reading.finish (r : Reading) : List (Option Char) :=
  (match r.begun with
    | none => r.done
    | some _ => none :: r.done).reverse

def decode (bytes : List UInt8) : List (Option Char) :=
  (bytes.foldl Reading.step ⟨none, []⟩).finish

def text? (bytes : List UInt8) : Option String :=
  ((decode bytes).mapM id).map String.ofList

def lossy (bytes : List UInt8) : String :=
  String.ofList ((decode bytes).map (·.getD '\uFFFD'))

end ClusterClient.Text.Utf8
