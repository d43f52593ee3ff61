import ClusterClient.Proofs.Encoding
import ClusterClient.Text.Percent

namespace ClusterClient.Text

theorem Utf8.text?_encode (s : String) : text? (encode s) = some s := by
  have every : (s.toList.map some).mapM id = some s.toList := by
    rw [List.mapM_map]
    exact List.mapM_pure.trans (congrArg some (List.map_id _))
  rw [text?, decode_encode, every, Option.map_some, String.ofList_toList]

namespace Percent

theorem toList_encode (s : String) : (encode s).toList = encodeChars s := String.toList_ofList

theorem value?_toUpper_digit {n : Nat} (small : n < 16) :
    Hex.value? (Hex.digit n).toUpper = some n := by
  interval_cases n <;> rfl

theorem isUnreserved_toUpper_digit {n : Nat} (small : n < 16) :
    isUnreserved (.ofNat (Hex.digit n).toUpper.toNat) = true := by
  interval_cases n <;> rfl

theorem toNat_ofNat_of_isUnreserved {b : UInt8} (unreserved : isUnreserved b = true) :
    (Char.ofNat b.toNat).toNat = b.toNat ∧ b.toNat < 0x80 ∧ b.toNat ≠ '%'.toNat := by
  have percent : '%'.toNat = 37 := rfl
  simp only [isUnreserved, Bool.or_eq_true, Bool.and_eq_true, decide_eq_true_iff, beq_iff_eq]
    at unreserved
  have small : b.toNat < 0x80 := by omega
  have valid : b.toNat.isValidChar := .inl (by omega)
  refine ⟨?_, small, by omega⟩
  rw [Char.ofNat, dif_pos valid]
  rfl

theorem bytes?_cons {c : Char} (plain : c ≠ '%') (small : c.toNat < 0x80) (rest : List Char) :
    bytes? (c :: rest) = (bytes? rest).map (UInt8.ofNat c.toNat :: ·) := by
  rw [bytes?]
  · rw [if_neg]
    rintro (percent | large)
    · exact plain percent
    · omega
  · intro high low after percent
    exact absurd percent plain

theorem bytes?_encodeByte (b : UInt8) (rest : List Char) :
    bytes? (encodeByte b ++ rest) = (bytes? rest).map (b :: ·) := by
  rw [encodeByte]
  split
  · rename_i unreserved
    obtain ⟨same, small, plain⟩ := toNat_ofNat_of_isUnreserved unreserved
    have other : Char.ofNat b.toNat ≠ '%' := by
      intro percent
      rw [percent] at same
      exact plain same.symm
    rw [List.singleton_append, bytes?_cons other (by omega), same, UInt8.ofNat_toNat]
  · have byte : b.toNat < 256 := b.toNat_lt
    have number : b.toNat / 16 * 16 + b.toNat % 16 = b.toNat := by omega
    simp only [List.cons_append, List.nil_append, bytes?]
    rw [value?_toUpper_digit (by omega), value?_toUpper_digit (by omega)]
    cases bytes? rest with
    | none => rfl
    | some read =>
        change some (UInt8.ofNat (b.toNat / 16 * 16 + b.toNat % 16) :: read) = some (b :: read)
        rw [number, UInt8.ofNat_toNat]

theorem bytes?_flatMap_encodeByte (bytes : List UInt8) :
    bytes? (bytes.flatMap encodeByte) = some bytes := by
  induction bytes with
  | nil => rfl
  | cons b bytes ih => rw [List.flatMap_cons, bytes?_encodeByte, ih, Option.map_some]

theorem decode?_encodeChars (s : String) : decode? (encodeChars s) = some s := by
  rw [decode?, encodeChars, bytes?_flatMap_encodeByte, Option.bind_some, Utf8.text?_encode]

theorem mem_encodeByte {b : UInt8} {c : Char} (member : c ∈ encodeByte b) :
    c = '%' ∨ isUnreserved (.ofNat c.toNat) = true := by
  rw [encodeByte] at member
  split at member
  · rename_i unreserved
    obtain ⟨same, -⟩ := toNat_ofNat_of_isUnreserved unreserved
    rw [List.mem_singleton.1 member, same, UInt8.ofNat_toNat]
    exact .inr unreserved
  · have byte : b.toNat < 256 := b.toNat_lt
    simp only [List.mem_cons, List.not_mem_nil, or_false] at member
    rcases member with rfl | rfl | rfl
    · exact .inl rfl
    · exact .inr (isUnreserved_toUpper_digit (by omega))
    · exact .inr (isUnreserved_toUpper_digit (by omega))

theorem encodeChars_ne (s : String) {separator : Char} (percent : separator ≠ '%')
    (reserved : isUnreserved (.ofNat separator.toNat) = false) :
    ∀ c ∈ encodeChars s, decide (c ≠ separator) = true := by
  intro c member
  rw [decide_eq_true_iff]
  rintro rfl
  obtain ⟨b, -, inside⟩ := List.mem_flatMap.1 member
  rcases mem_encodeByte inside with same | unreserved
  · exact percent same
  · rw [reserved] at unreserved
    cases unreserved

end Percent

end ClusterClient.Text
