import ClusterClient.Text.Utf8
import Mathlib.Tactic.IntervalCases

namespace ClusterClient.Text.Utf8

theorem lead_two {k : Nat} (least : 2 ≤ k) (most : k < 0x20) :
    lead (0xC0 + k) = .begins ⟨1, 0x80, 0xBF, k⟩ := by
  interval_cases k <;> rfl

theorem lead_three {k : Nat} (most : k < 0x10) :
    lead (0xE0 + k) =
      .begins ⟨2, if k = 0 then 0xA0 else 0x80, if k = 0xD then 0x9F else 0xBF, k⟩ := by
  interval_cases k <;> rfl

theorem lead_four {k : Nat} (most : k < 5) :
    lead (0xF0 + k) =
      .begins ⟨3, if k = 0 then 0x90 else 0x80, if k = 4 then 0x8F else 0xBF, k⟩ := by
  interval_cases k <;> rfl

namespace Reading

variable {done : List (Option Char)}

theorem step_whole {b : Nat} (small : b < 0x80) :
    step ⟨none, done⟩ (.ofNat b) = ⟨none, some (Char.ofNat b) :: done⟩ := by
  have byte : (UInt8.ofNat b).toNat = b := by
    rw [UInt8.toNat_ofNat', Nat.mod_eq_of_lt (by omega)]
  simp only [step, byte, start, lead, if_pos small]

theorem step_begins {b : Nat} {begun : Begun} (byte : b < 256) (begins : lead b = .begins begun) :
    step ⟨none, done⟩ (.ofNat b) = ⟨some begun, done⟩ := by
  have byte : (UInt8.ofNat b).toNat = b := by
    rw [UInt8.toNat_ofNat', Nat.mod_eq_of_lt byte]
  simp only [step, byte, start, begins]

variable {least greatest value low : Nat}

theorem step_next (owed : Nat) (small : low < 0x40) (above : least ≤ 0x80 + low)
    (below : 0x80 + low ≤ greatest) :
    step ⟨some ⟨owed, least, greatest, value⟩, done⟩ (.ofNat (0x80 + low)) =
      if owed ≤ 1 then ⟨none, some (Char.ofNat (value * 0x40 + low)) :: done⟩
      else ⟨some ⟨owed - 1, 0x80, 0xBF, value * 0x40 + low⟩, done⟩ := by
  have byte : (UInt8.ofNat (0x80 + low)).toNat = 0x80 + low := by
    rw [UInt8.toNat_ofNat', Nat.mod_eq_of_lt (by omega)]
  simp only [step, byte, and_self, above, below, if_true, Nat.add_sub_cancel_left]

end Reading

theorem foldl_encodeChar (c : Char) (done : List (Option Char)) :
    (encodeChar c).foldl Reading.step ⟨none, done⟩ = ⟨none, some c :: done⟩ := by
  have valid : c.toNat < 0xD800 ∨ 0xDFFF < c.toNat ∧ c.toNat < 0x110000 := c.valid
  have same := Char.ofNat_toNat c
  rw [encodeChar]
  generalize c.toNat = n at valid same
  split
  · rename_i one
    rw [List.foldl_cons, Reading.step_whole one, same, List.foldl_nil]
  split
  · rename_i two
    have begins := lead_two (k := n / 0x40) (by omega) (by omega)
    have number : n / 0x40 * 0x40 + n % 0x40 = n := by omega
    rw [List.foldl_cons, Reading.step_begins (by omega) begins, List.foldl_cons,
      Reading.step_next _ (by omega) (by omega) (by omega), number, same]
    rfl
  split
  · rename_i three
    have begins := lead_three (k := n / 0x1000) (by omega)
    have number : (n / 0x1000 * 0x40 + n / 0x40 % 0x40) * 0x40 + n % 0x40 = n := by omega
    have above : (if n / 0x1000 = 0 then 0xA0 else 0x80) ≤ 0x80 + n / 0x40 % 0x40 := by
      split <;> omega
    have below : 0x80 + n / 0x40 % 0x40 ≤ (if n / 0x1000 = 0xD then 0x9F else 0xBF) := by
      split <;> omega
    rw [List.foldl_cons, Reading.step_begins (by omega) begins, List.foldl_cons,
      Reading.step_next _ (by omega) above below, if_neg (by omega), List.foldl_cons,
      Reading.step_next _ (by omega) (by omega) (by omega), number, same]
    rfl
  · have begins := lead_four (k := n / 0x40000) (by omega)
    have number : ((n / 0x40000 * 0x40 + n / 0x1000 % 0x40) * 0x40 + n / 0x40 % 0x40) * 0x40 +
        n % 0x40 = n := by
      omega
    have above : (if n / 0x40000 = 0 then 0x90 else 0x80) ≤ 0x80 + n / 0x1000 % 0x40 := by
      split <;> omega
    have below : 0x80 + n / 0x1000 % 0x40 ≤ (if n / 0x40000 = 4 then 0x8F else 0xBF) := by
      split <;> omega
    rw [List.foldl_cons, Reading.step_begins (by omega) begins, List.foldl_cons,
      Reading.step_next _ (by omega) above below, if_neg (by omega), List.foldl_cons,
      Reading.step_next _ (by omega) (by omega) (by omega), if_neg (by omega), List.foldl_cons,
      Reading.step_next _ (by omega) (by omega) (by omega), number, same]
    rfl

theorem decode_encode (s : String) : decode (encode s) = s.toList.map some := by
  suffices ∀ (cs : List Char) (done : List (Option Char)),
      (cs.flatMap encodeChar).foldl Reading.step ⟨none, done⟩ =
        ⟨none, (cs.map some).reverse ++ done⟩ by
    rw [decode, encode, this]
    simp [Reading.finish]
  intro cs
  induction cs with
  | nil => exact fun _ => rfl
  | cons c cs ih =>
      intro done
      rw [List.flatMap_cons, List.foldl_append, foldl_encodeChar, ih]
      simp

end ClusterClient.Text.Utf8
