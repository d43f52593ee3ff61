import ClusterClient.RequestId
import Mathlib.Data.List.Forall2
import Mathlib.Data.List.Nodup
import Mathlib.Tactic.IntervalCases

namespace ClusterClient

namespace Text.Hex

def lowerDigits : List Char := "0123456789abcdef".toList

def Writes (text : List Char) (n : Nat) : Prop :=
  ∃ digits : List Nat, List.Forall₂ (fun c d => lowerDigits[d]? = some c) text digits ∧
    digits.foldl (fun value d => value * 16 + d) 0 = n

theorem lowerDigits_digit {n : Nat} (small : n < 16) : lowerDigits[n]? = some (digit n) := by
  interval_cases n <;> rfl

theorem writes_fixed {width n : Nat} (small : n < 16 ^ width) : Writes (fixed width n) n := by
  induction width generalizing n with
  | zero =>
      obtain rfl : n = 0 := Nat.lt_one_iff.1 small
      exact ⟨[], .nil, rfl⟩
  | succ width ih =>
      have high : n / 16 < 16 ^ width := Nat.div_lt_of_lt_mul (by rwa [Nat.pow_succ'] at small)
      obtain ⟨digits, written, value⟩ := ih high
      have low := lowerDigits_digit (Nat.mod_lt n (by decide))
      refine ⟨digits ++ [n % 16], List.rel_append written (.cons low .nil), ?_⟩
      rw [List.foldl_append, value]
      exact Nat.div_add_mod' n 16

theorem Writes.unique {text : List Char} {n n' : Nat} (writes : Writes text n)
    (writes' : Writes text n') : n = n' := by
  obtain ⟨digits, written, rfl⟩ := writes
  obtain ⟨digits', written', rfl⟩ := writes'
  have apart : lowerDigits.Nodup := by decide
  have functional : Relator.RightUnique fun (c : Char) (d : Nat) => lowerDigits[d]? = some c := by
    intro c d d' there there'
    obtain ⟨inside, eq⟩ := List.getElem?_eq_some_iff.1 there
    obtain ⟨inside', eq'⟩ := List.getElem?_eq_some_iff.1 there'
    exact (List.Nodup.getElem_inj_iff apart).1 (eq.trans eq'.symm)
  rw [List.right_unique_forall₂' functional written written']

theorem Writes.mem_lowerDigits {text : List Char} {n : Nat} (writes : Writes text n) {c : Char}
    (member : c ∈ text) : c ∈ lowerDigits := by
  obtain ⟨digits, written, -⟩ := writes
  induction written with
  | nil => cases member
  | cons there _ ih =>
      rcases List.mem_cons.1 member with rfl | later
      · exact List.mem_of_getElem? there
      · exact ih later

end Text.Hex

namespace Uuid

open Text (Hex.Writes Hex.writes_fixed Hex.length_fixed)

/-- Whether a text is a number in groups of 8, 4, 4, 4 and 12 lower-case hexadecimal digits with
hyphens between them. -/
def Spells (text : String) (n : Nat) : Prop :=
  (text.toList.splitOn '-').map List.length = [8, 4, 4, 4, 12] ∧
    Hex.Writes (text.toList.splitOn '-').flatten n

theorem splitOn_grouped {sizes : List Nat} {digits : List Char} (some_size : sizes ≠ [])
    (length : digits.length = sizes.sum) (plain : '-' ∉ digits) :
    ((grouped sizes digits).splitOn '-').map List.length = sizes ∧
      ((grouped sizes digits).splitOn '-').flatten = digits ∧
      (grouped sizes digits).length + 1 = sizes.sum + sizes.length := by
  fun_induction grouped sizes digits with
  | case1 => exact absurd rfl some_size
  | case2 n digits =>
      rw [List.sum_singleton] at length
      rw [List.take_of_length_le (Nat.le_of_eq length), List.splitOn_eq_singleton plain]
      simpa using length
  | case3 n rest digits more ih =>
      rw [List.sum_cons] at length
      have taken : (digits.take n).length = n := by rw [List.length_take]; omega
      have left : (digits.drop n).length = rest.sum := by rw [List.length_drop]; omega
      have front : '-' ∉ digits.take n := fun member => plain (List.mem_of_mem_take member)
      have back : '-' ∉ digits.drop n := fun member => plain (List.mem_of_mem_drop member)
      obtain ⟨lengths, joined, total⟩ := ih (by rintro rfl; exact more rfl) left back
      rw [List.splitOn_append_cons_self_of_not_mem front, List.map_cons, List.flatten_cons,
        lengths, joined, taken, List.take_append_drop]
      refine ⟨rfl, rfl, ?_⟩
      rw [List.length_append, List.length_cons, taken, List.sum_cons, List.length_cons]
      omega

theorem spells_text {n : Nat} (small : n < 16 ^ 32) :
    Spells (text n) n ∧ (text n).length = 36 := by
  have writes := Hex.writes_fixed small
  have length : (Text.Hex.fixed 32 n).length = groups.sum := Hex.length_fixed 32 n
  have plain : '-' ∉ Text.Hex.fixed 32 n := by
    intro member
    exact absurd (writes.mem_lowerDigits member) (by decide)
  obtain ⟨lengths, joined, total⟩ := splitOn_grouped (by decide) length plain
  rw [Spells, text, String.toList_ofList, String.length_ofList, joined]
  exact ⟨⟨lengths, writes⟩, Nat.succ.inj total⟩

theorem Spells.unique {text : String} {n n' : Nat} (spells : Spells text n)
    (spells' : Spells text n') : n = n' := spells.2.unique spells'.2

end Uuid

inductive Descriptor.Receives (d : Descriptor) (number : Nat) : Option String → Prop
  | nothing (untagged : d.tagging = .untagged) : Receives d number none
  | own {id : String} (given : d.tagging = .given id) : Receives d number (some id)
  | generated {id : String} (fresh : d.tagging = .fresh) (length : id.length = 36)
      (spells : Uuid.Spells id number) : Receives d number (some id)

theorem Descriptor.Receives.generates {d : Descriptor} {number : Nat} {id : Option String}
    (receives : d.Receives number id) (fresh : d.tagging = .fresh) :
    ∃ text, id = some text ∧ Uuid.Spells text number := by
  cases receives with
  | nothing untagged =>
      rw [fresh] at untagged
      cases untagged
  | own given =>
      rw [fresh] at given
      cases given
  | generated _ _ spells => exact ⟨_, rfl, spells⟩

def Descriptor.countFresh (ds : List Descriptor) : Nat := ds.countP (·.tagging = .fresh)

namespace IdSource

open Descriptor (countFresh)

def tagAll (source : IdSource) : List Descriptor → List (Option String)
  | [] => []
  | d :: rest => (source.tag d).1 :: (source.tag d).2.tagAll rest

theorem length_tagAll (source : IdSource) (ds : List Descriptor) :
    (source.tagAll ds).length = ds.length := by
  induction ds generalizing source with
  | nil => rfl
  | cons d rest ih => rw [tagAll, List.length_cons, ih, List.length_cons]

theorem tag_sequential {issued : UInt64} (room : issued.toNat + 1 < 2 ^ 64) (d : Descriptor) :
    ∃ next, ((sequential issued).tag d).2 = sequential next ∧
      next.toNat = issued.toNat + countFresh [d] ∧
      d.Receives (issued.toNat + 1) ((sequential issued).tag d).1 := by
  have number : (issued + 1).toNat = issued.toNat + 1 := by
    rw [UInt64.toNat_add]
    exact Nat.mod_eq_of_lt room
  cases tagging : d.tagging with
  | untagged =>
      refine ⟨issued, ?_, ?_, ?_⟩
      · rw [tag, tagging]
      · simp [countFresh, tagging]
      · rw [tag, tagging]
        exact .nothing tagging
  | given id =>
      refine ⟨issued, ?_, ?_, ?_⟩
      · rw [tag, tagging]
      · simp [countFresh, tagging]
      · rw [tag, tagging]
        exact .own tagging
  | fresh =>
      refine ⟨issued + 1, ?_, ?_, ?_⟩
      · rw [tag, tagging]
        rfl
      · simp [countFresh, tagging, number]
      · have spells := Uuid.spells_text (n := issued.toNat + 1) (by omega)
        rw [tag, tagging, next, number]
        exact .generated tagging spells.2 spells.1

theorem receives_tagAll {issued : UInt64} {ds : List Descriptor}
    (room : issued.toNat + ds.length < 2 ^ 64) {i : Nat} {d : Descriptor}
    (there : ds[i]? = some d) :
    ∃ id, ((sequential issued).tagAll ds)[i]? = some id ∧
      d.Receives (issued.toNat + countFresh (ds.take i) + 1) id := by
  induction ds generalizing issued i with
  | nil => cases there
  | cons first rest ih =>
      rw [List.length_cons] at room
      have one : issued.toNat + 1 < 2 ^ 64 := by omega
      obtain ⟨next, source, number, receives⟩ := tag_sequential one first
      rw [tagAll, source]
      cases i with
      | zero =>
          cases there
          exact ⟨_, rfl, receives⟩
      | succ i =>
          have counted : countFresh [first] ≤ 1 := List.countP_le_length
          have later : next.toNat + rest.length < 2 ^ 64 := by omega
          obtain ⟨id, given, later⟩ := ih later there
          have total : countFresh ([first] ++ rest.take i) =
              countFresh [first] + countFresh (rest.take i) := List.countP_append
          rw [number, Nat.add_assoc issued.toNat, ← total] at later
          exact ⟨id, given, later⟩

theorem countFresh_take_lt {ds : List Descriptor} {i j : Nat} (earlier : i < j) {d : Descriptor}
    (there : ds[i]? = some d) (fresh : d.tagging = .fresh) :
    countFresh (ds.take i) < countFresh (ds.take j) := by
  have next : countFresh (ds.take (i + 1)) = countFresh (ds.take i) + 1 := by
    rw [List.take_add_one, there]
    simp [countFresh, fresh]
  have within : (ds.take (i + 1)).Sublist (ds.take j) := by
    apply List.IsPrefix.sublist
    exact List.take_prefix_take_left earlier
  have le : countFresh (ds.take (i + 1)) ≤ countFresh (ds.take j) := within.countP_le
  omega

theorem sequential_ids_are_never_reused (ds : List Descriptor) (few : ds.length < 2 ^ 64) :
    ((sequential 0).tagAll ds).length = ds.length ∧
      (∀ (i : Nat) (d : Descriptor), ds[i]? = some d →
        ∃ id, ((sequential 0).tagAll ds)[i]? = some id ∧
          d.Receives (countFresh (ds.take i) + 1) id) ∧
      ∀ (i j : Nat) (d d' : Descriptor), i < j → ds[i]? = some d → ds[j]? = some d' →
        d.tagging = .fresh → d'.tagging = .fresh →
          ((sequential 0).tagAll ds)[i]? ≠ ((sequential 0).tagAll ds)[j]? := by
  have room : (0 : UInt64).toNat + ds.length < 2 ^ 64 := by
    rw [UInt64.toNat_zero, Nat.zero_add]
    exact few
  have receives {i : Nat} {d : Descriptor} (there : ds[i]? = some d) :
      ∃ id, ((sequential 0).tagAll ds)[i]? = some id ∧
        d.Receives (countFresh (ds.take i) + 1) id := by
    have counted := receives_tagAll room there
    rwa [UInt64.toNat_zero, Nat.zero_add] at counted
  refine ⟨length_tagAll _ ds, fun i d => receives, ?_⟩
  intro i j d d' earlier there there' fresh fresh' same
  obtain ⟨id, given, first⟩ := receives there
  obtain ⟨id', given', second⟩ := receives there'
  obtain rfl : id = id' := Option.some.inj (given.symm.trans (same.trans given'))
  obtain ⟨text, rfl, spells⟩ := first.generates fresh
  obtain ⟨text', eq, spells'⟩ := second.generates fresh'
  obtain rfl : text = text' := Option.some.inj eq
  have number := spells.unique spells'
  have less := countFresh_take_lt earlier there fresh
  omega

def taggings : List Descriptor :=
  [.new .put "/a", (Descriptor.new .put "/b").raft, (Descriptor.new .put "/c").withRaftId "",
    (Descriptor.new .put "/d").raft]

theorem taggings_are_never_reused :
    taggings.length < 2 ^ 64 ∧
      (∃ id, ((sequential 0).tagAll taggings)[3]? = some id ∧
        (Descriptor.new .put "/d").raft.Receives 2 id) ∧
      ((sequential 0).tagAll taggings)[1]? ≠ ((sequential 0).tagAll taggings)[3]? := by
  have few : taggings.length < 2 ^ 64 := by decide
  obtain ⟨-, numbered, distinct⟩ := sequential_ids_are_never_reused taggings few
  have second : taggings[1]? = some (Descriptor.new .put "/b").raft := rfl
  have fourth : taggings[3]? = some (Descriptor.new .put "/d").raft := rfl
  exact ⟨few, numbered 3 _ fourth, distinct 1 3 _ _ (by decide) second fourth rfl rfl⟩

example : (sequential 0).tagAll taggings =
    [none, some "00000000-0000-0000-0000-000000000001", some "",
      some "00000000-0000-0000-0000-000000000002"] := by
  decide +kernel

end IdSource

end ClusterClient
