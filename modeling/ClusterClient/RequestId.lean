import ClusterClient.Descriptor
import ClusterClient.Text.Hex

namespace ClusterClient

namespace Uuid

def groups : List Nat := [8, 4, 4, 4, 12]

def grouped : List Nat → List Char → List Char
  | [], _ => []
  | [n], digits => digits.take n
  | n :: rest, digits => digits.take n ++ '-' :: grouped rest (digits.drop n)

def text (n : Nat) : String := String.ofList (grouped groups (Text.Hex.fixed 32 n))

def bits (n offset width : Nat) : Nat := (n >>> offset) % (1 <<< width)

def markRandom (n : Nat) : Nat :=
  (bits n 80 48 <<< 80) + (4 <<< 76) + (bits n 64 12 <<< 64) + (2 <<< 62) + bits n 0 62

end Uuid

inductive IdSource
  | sequential (issued : UInt64)
  | random (state : StdGen)

namespace IdSource

instance : Inhabited IdSource := ⟨sequential 0⟩

def draw : Nat → Nat → StdGen → Nat × StdGen
  | 0, n, g => (n, g)
  | count + 1, n, g =>
    let (bits, g) := randNat g 0 65535
    draw count (n * 65536 + bits) g

def next : IdSource → String × IdSource
  | sequential issued => (Uuid.text (issued + 1).toNat, sequential (issued + 1))
  | random state =>
    let (n, state) := draw 8 0 state
    (Uuid.text (Uuid.markRandom n), random state)

def tag (source : IdSource) (d : Descriptor) : Option String × IdSource :=
  match d.tagging with
  | .untagged => (none, source)
  | .given id => (some id, source)
  | .fresh =>
    let (id, source) := source.next
    (some id, source)

end IdSource

end ClusterClient
