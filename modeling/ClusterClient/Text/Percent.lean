import ClusterClient.Text.Hex
import ClusterClient.Text.Utf8

namespace ClusterClient.Text.Percent

def isUnreserved (b : UInt8) : Bool :=
  let n := b.toNat
  (48 ≤ n && n ≤ 57) || (65 ≤ n && n ≤ 90) || (97 ≤ n && n ≤ 122) ||
    n == 45 || n == 46 || n == 95 || n == 126

def encodeByte (b : UInt8) : List Char :=
  if isUnreserved b then [Char.ofNat b.toNat]
  else ['%', (Hex.digit (b.toNat / 16)).toUpper, (Hex.digit (b.toNat % 16)).toUpper]

def encodeChars (s : String) : List Char := (Utf8.encode s).flatMap encodeByte

def encode (s : String) : String := String.ofList (encodeChars s)

def bytes? : List Char → Option (List UInt8)
  | [] => some []
  | '%' :: high :: low :: rest => do
    let h ← Hex.value? high
    let l ← Hex.value? low
    return UInt8.ofNat (h * 16 + l) :: (← bytes? rest)
  | c :: rest =>
    if c = '%' ∨ 0x80 ≤ c.toNat then none
    else (bytes? rest).map (UInt8.ofNat c.toNat :: ·)

def decode? (s : List Char) : Option String := (bytes? s).bind Utf8.text?

end ClusterClient.Text.Percent
