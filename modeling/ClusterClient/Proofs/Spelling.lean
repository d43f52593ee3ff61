import ClusterClient.Json.Number
import ClusterClient.Json.Writer
import ClusterClient.Proofs.Documents
import Mathlib.Tactic.IntervalCases

namespace ClusterClient.Json

def tokensFrom (state : Lexing) (input : List (Option Char)) : Option (List Token) := do
  let (final, tokens) ← lexFrom state input
  match final with
  | .between => return tokens
  | state => return tokens ++ [.number (← state.numeral?)]

theorem tokensFrom_cons (state : Lexing) (input : Option Char) (rest : List (Option Char)) :
    tokensFrom state (input :: rest) =
      (state.step input).bind fun next => (tokensFrom next.1 rest).map (next.2 ++ ·) := by
  unfold tokensFrom
  cases taken : state.step input with
  | none => simp [lexFrom, taken]
  | some next =>
      obtain ⟨next, tokens⟩ := next
      cases later : lexFrom next rest with
      | none => simp [lexFrom, taken, later]
      | some final =>
          obtain ⟨final, more⟩ := final
          cases final <;> simp [lexFrom, taken, later, Lexing.numeral?]

section
variable {state next : Lexing} {input : Option Char}

theorem tokensFrom_step {tokens : List Token} (taken : state.step input = some (next, tokens))
    (rest : List (Option Char)) :
    tokensFrom state (input :: rest) = (tokensFrom next rest).map (tokens ++ ·) := by
  rw [tokensFrom_cons, taken, Option.bind_some]

theorem tokensFrom_silent (taken : state.step input = some (next, []))
    (rest : List (Option Char)) : tokensFrom state (input :: rest) = tokensFrom next rest := by
  rw [tokensFrom_step taken]
  exact Option.map_id'

end

inductive Delimits : List (Option Char) → Prop
  | ending : Delimits []
  | comma (rest : List (Option Char)) : Delimits (some ',' :: rest)
  | closeArray (rest : List (Option Char)) : Delimits (some ']' :: rest)
  | closeObject (rest : List (Option Char)) : Delimits (some '\x7d' :: rest)

/-- Whether a text that stands before another gives these tokens, and nothing is left of it. -/
def Emits (text : List Char) (tokens : List Token) (rest : List (Option Char)) : Prop :=
  tokensFrom .between (text.map some ++ rest) = (tokensFrom .between rest).map (tokens ++ ·)

theorem Emits.append {text text' : List Char} {tokens tokens' : List Token}
    {rest : List (Option Char)} (first : Emits text tokens (text'.map some ++ rest))
    (second : Emits text' tokens' rest) : Emits (text ++ text') (tokens ++ tokens') rest := by
  unfold Emits at *
  rw [List.map_append, List.append_assoc, first, second, Option.map_map]
  simp only [Function.comp_def, List.append_assoc]

def Value.Spells (v : Value) (doc : Doc) : Prop :=
  ∀ rest, Delimits rest → Emits v.write doc.tokens rest

theorem Hex.value?_digit {n : Nat} (small : n < 16) :
    Text.Hex.value? (Text.Hex.digit n) = some n := by
  have all : ∀ n < 16, Text.Hex.value? (Text.Hex.digit n) = some n := by decide
  exact all n small

def spelling (c : Char) : Piece :=
  match c with
  | '\x08' | '\x0c' | '\n' | '\r' | '\t' => .char c
  | _ => if c < ' ' then .unit c.toNat else .char c

def literal (s : String) : Literal := s.toList.map spelling

theorem tokens_escapeChar (c : Char) (done : List Piece) (rest : List (Option Char)) :
    tokensFrom (.text done) ((escapeChar c).map some ++ rest) =
      tokensFrom (.text (spelling c :: done)) rest := by
  unfold escapeChar
  split
  case h_8 =>
    rename_i quote backslash b f n r t
    -- A control character is read back from its four digits, of which the first two are zero.
    split
    · rename_i control
      have small : c.toNat < 32 := control
      have high := Hex.value?_digit (n := c.toNat / 16) (by omega)
      have low := Hex.value?_digit (n := c.toNat % 16) (by omega)
      have zero := Hex.value?_digit (n := 0) (by omega)
      have digits : Text.Hex.fixed 4 c.toNat = [Text.Hex.digit 0, Text.Hex.digit 0,
          Text.Hex.digit (c.toNat / 16), Text.Hex.digit (c.toNat % 16)] := by
        have third : c.toNat / 16 % 16 = c.toNat / 16 := by omega
        have second : c.toNat / 16 / 16 = 0 := by omega
        simp [Text.Hex.fixed, third, second]
      have value : c.toNat / 16 * 16 + c.toNat % 16 = c.toNat := by omega
      have more {d : Nat} (owed value : Nat) (read : Text.Hex.value? (Text.Hex.digit d) = some d) :
          Lexing.step (.unit done (owed + 2) value) (some (Text.Hex.digit d)) =
            some (.unit done (owed + 1) (value * 16 + d), []) := by
        simp [Lexing.step, read]
      have last {d : Nat} (value : Nat) (read : Text.Hex.value? (Text.Hex.digit d) = some d) :
          Lexing.step (.unit done 1 value) (some (Text.Hex.digit d)) =
            some (.text (.unit (value * 16 + d) :: done), []) := by
        simp [Lexing.step, read]
      have unit : spelling c = .unit c.toNat := by simp [spelling, control]
      simp only [digits, List.map_cons, List.map_nil, List.cons_append, List.nil_append]
      rw [tokensFrom_silent rfl, tokensFrom_silent rfl, tokensFrom_silent (more 2 0 zero),
        tokensFrom_silent (more 1 _ zero), tokensFrom_silent (more 0 _ high),
        tokensFrom_silent (last _ low), unit]
      simp [value]
    · rename_i printable
      have taken : Lexing.step (.text done) (some c) = some (.text (.char c :: done), []) := by
        simp [Lexing.step, Lexing.firstPrintable, if_neg quote, if_neg backslash, printable]
      have plain : spelling c = .char c := by simp [spelling, printable]
      rw [List.map_cons, List.map_nil, List.cons_append, tokensFrom_silent taken, plain]
      rfl
  all_goals
    simp only [List.map_cons, List.map_nil, List.cons_append, List.nil_append]
    rw [tokensFrom_silent rfl, tokensFrom_silent rfl]
    rfl

theorem tokens_escaped (cs : List Char) (done : List Piece) (rest : List (Option Char)) :
    tokensFrom (.text done) ((cs.flatMap escapeChar).map some ++ rest) =
      tokensFrom (.text ((cs.map spelling).reverse ++ done)) rest := by
  induction cs generalizing done with
  | nil => rfl
  | cons c cs ih =>
      rw [List.flatMap_cons, List.map_append, List.append_assoc, tokens_escapeChar, ih]
      simp

theorem emits_writeString (s : String) (rest : List (Option Char)) :
    Emits (writeString s) [.string (literal s)] rest := by
  have opened (rest : List (Option Char)) :
      tokensFrom .between (some '"' :: rest) = tokensFrom (.text []) rest :=
    tokensFrom_silent rfl rest
  have closed (done : List Piece) : tokensFrom (.text done) (some '"' :: rest) =
      (tokensFrom .between rest).map (.string done.reverse :: ·) := by
    rw [tokensFrom_step rfl]
    rfl
  have text : (writeString s).map some ++ rest =
      some '"' :: ((s.toList.flatMap escapeChar).map some ++ some '"' :: rest) := by
    simp [writeString]
  rw [Emits, text, opened, tokens_escaped, closed]
  simp [literal]

theorem spelling_cases (c : Char) :
    spelling c = .char c ∨ c.toNat < 32 ∧ spelling c = .unit c.toNat := by
  unfold spelling
  split
  case h_6 =>
    split
    · rename_i control
      exact .inr ⟨control, rfl⟩
    · exact .inl rfl
  all_goals exact .inl rfl

theorem chars?_spelling (cs : List Char) : Literal.chars? (cs.map spelling) = some cs := by
  induction cs with
  | nil => rfl
  | cons c cs ih =>
      rw [List.map_cons]
      rcases spelling_cases c with same | ⟨small, unit⟩
      · rw [same, Literal.chars?, ih, Option.map_some]
      · have high : Literal.isHigh c.toNat = false := by
          simp only [Literal.isHigh, Bool.and_eq_false_iff, decide_eq_false_iff_not]
          omega
        have low : Literal.isLow c.toNat = false := by
          simp only [Literal.isLow, Bool.and_eq_false_iff, decide_eq_false_iff_not]
          omega
        rw [unit, Literal.chars?.eq_def]
        simp [high, low, ih]

theorem text?_literal (s : String) : Literal.text? (literal s) = some s := by
  rw [Literal.text?, literal, chars?_spelling, Option.map_some, String.ofList_toList]

def digitsOf (n : Nat) : List Nat := (Nat.toDigits 10 n).map (·.toNat - 48)

def Numeral.ofInt (i : Int) : Numeral := ⟨decide (i < 0), digitsOf i.natAbs, [], none⟩

theorem digitsOf_of_lt {d : Nat} (small : d < 10) : digitsOf d = [d] := by
  have char := Nat.toNat_digitChar_of_lt_ten small
  simp [digitsOf, Nat.toDigits_of_lt_base small, char]

theorem digitsOf_of_le {n : Nat} (more : 10 ≤ n) :
    digitsOf n = digitsOf (n / 10) ++ [n % 10] := by
  have char := Nat.toNat_digitChar_of_lt_ten (Nat.mod_lt n (by omega : 0 < 10))
  simp [digitsOf, Nat.toDigits_of_base_le (by omega : 1 < 10) more, char]

theorem digitsOf_induction {motive : Nat → List Nat → Prop}
    (last : ∀ d < 10, motive d [d])
    (more : ∀ n digits, 0 < n → motive n digits →
      ∀ d < 10, motive (10 * n + d) (digits ++ [d]))
    (n : Nat) : motive n (digitsOf n) := by
  induction n using Nat.strongRecOn with
  | _ n ih =>
      rcases Nat.lt_or_ge n 10 with small | large
      · rw [digitsOf_of_lt small]
        exact last n small
      · rw [digitsOf_of_le large]
        have front := more (n / 10) _ (by omega) (ih (n / 10) (by omega)) (n % 10) (by omega)
        rwa [Nat.div_add_mod] at front

theorem digitsValue_digitsOf (n : Nat) : digitsValue (digitsOf n) = n := by
  refine digitsOf_induction (motive := fun n digits => digitsValue digits = n) ?_ ?_ n
  · intro d _
    simp [digitsValue]
  · intro n digits _ front d _
    rw [digitsValue, List.foldl_append, ← digitsValue, front]
    simp only [List.foldl_cons, List.foldl_nil]
    omega

theorem lt_of_mem_digitsOf (n : Nat) : ∀ d ∈ digitsOf n, d < 10 := by
  refine digitsOf_induction (motive := fun _ digits => ∀ d ∈ digits, d < 10) ?_ ?_ n
  · intro d small
    simpa using small
  · intro n digits _ front d small
    simpa [or_imp, forall_and] using ⟨front, small⟩

theorem map_digitChar_digitsOf (n : Nat) : (digitsOf n).map Nat.digitChar = Nat.toDigits 10 n := by
  refine digitsOf_induction
    (motive := fun n digits => digits.map Nat.digitChar = Nat.toDigits 10 n) ?_ ?_ n
  · intro d small
    rw [Nat.toDigits_of_lt_base small]
    rfl
  · intro n digits positive front d small
    rw [List.map_append, front, ← Nat.toDigits_append_toDigits (by omega) positive small,
      Nat.toDigits_of_lt_base small]
    rfl

theorem digitsOf_eq_cons {n : Nat} (positive : 0 < n) :
    ∃ d digits, digitsOf n = d :: digits ∧ 0 < d := by
  refine digitsOf_induction
    (motive := fun n digits => 0 < n → ∃ d rest, digits = d :: rest ∧ 0 < d) ?_ ?_ n positive
  · intro d _ positive
    exact ⟨d, [], rfl, positive⟩
  · intro n digits positive front d _ _
    obtain ⟨first, rest, rfl, nonzero⟩ := front positive
    exact ⟨first, rest ++ [d], rfl, nonzero⟩

section
variable (negative : Bool) {rest : List (Option Char)}

theorem tokens_zero (delimits : Delimits rest) :
    tokensFrom (.zero negative) rest =
      (tokensFrom .between rest).map (.number ⟨negative, [0], [], none⟩ :: ·) := by
  cases delimits with
  | ending => rfl
  | comma rest | closeArray rest | closeObject rest =>
      rw [tokensFrom_step rfl, tokensFrom_step rfl, Option.map_map]
      rfl

theorem tokens_whole_ends (digits : List Nat) (delimits : Delimits rest) :
    tokensFrom (.whole negative digits) rest =
      (tokensFrom .between rest).map (.number ⟨negative, digits.reverse, [], none⟩ :: ·) := by
  cases delimits with
  | ending => rfl
  | comma rest | closeArray rest | closeObject rest =>
      rw [tokensFrom_step rfl, tokensFrom_step rfl, Option.map_map]
      rfl

theorem tokens_whole (rest : List (Option Char)) (more done : List Nat)
    (digits : ∀ d ∈ more, d < 10) :
    tokensFrom (.whole negative done) ((more.map Nat.digitChar).map some ++ rest) =
      tokensFrom (.whole negative (more.reverse ++ done)) rest := by
  induction more generalizing done with
  | nil => rfl
  | cons d more ih =>
      have small : d < 10 := digits d List.mem_cons_self
      have taken : Lexing.step (.whole negative done) (some d.digitChar) =
          some (.whole negative (d :: done), []) := by
        interval_cases d <;> rfl
      have later := ih (d :: done) fun d' member => digits d' (List.mem_cons_of_mem _ member)
      rw [List.map_cons, List.map_cons, List.cons_append, tokensFrom_silent taken, later]
      simp

theorem tokens_digits (state : Lexing)
    (first : ∀ d < 10, state.step (some d.digitChar) =
      some (if d = 0 then .zero negative else .whole negative [d], []))
    (n : Nat) (delimits : Delimits rest) :
    tokensFrom state ((Nat.toDigits 10 n).map some ++ rest) =
      (tokensFrom .between rest).map (.number ⟨negative, digitsOf n, [], none⟩ :: ·) := by
  -- A zero stands alone: a digit after it would be no part of the number.
  rcases Nat.eq_zero_or_pos n with rfl | positive
  · have zero := first 0 (by omega)
    rw [digitsOf_of_lt (by omega), ← tokens_zero negative delimits]
    exact tokensFrom_silent zero rest
  · obtain ⟨d, digits, eq, nonzero⟩ := digitsOf_eq_cons positive
    have small := lt_of_mem_digitsOf n
    rw [eq] at small
    have begun := first d (small d List.mem_cons_self)
    rw [if_neg (by omega)] at begun
    have others := tokens_whole negative rest digits [d] fun d' member =>
      small d' (List.mem_cons_of_mem _ member)
    rw [← map_digitChar_digitsOf, eq, List.map_cons, List.map_cons, List.cons_append,
      tokensFrom_silent begun, others, tokens_whole_ends negative _ delimits]
    simp

end

theorem spells_int (i : Int) : (Value.int i).Spells (.number (.ofInt i)) := by
  intro rest delimits
  rcases Int.lt_or_le i 0 with below | above
  · have text : (Value.int i).write = '-' :: Nat.toDigits 10 i.natAbs := by
      simp [Value.int, Value.write, Number.text, below]
    have numeral : Numeral.ofInt i = ⟨true, digitsOf i.natAbs, [], none⟩ := by
      simp [Numeral.ofInt, below]
    rw [text, numeral]
    have digits := tokens_digits true .minus (fun d small => by interval_cases d <;> rfl)
      i.natAbs delimits
    exact (tokensFrom_silent rfl _).trans digits
  · have text : (Value.int i).write = Nat.toDigits 10 i.natAbs := by
      simp [Value.int, Value.write, Number.text, Int.not_lt.2 above]
    have numeral : Numeral.ofInt i = ⟨false, digitsOf i.natAbs, [], none⟩ := by
      simp [Numeral.ofInt, Int.not_lt.2 above]
    rw [text, numeral]
    exact tokens_digits false .between (fun d small => by interval_cases d <;> rfl) i.natAbs
      delimits

theorem tokens_word (letters : List Char) (last : Char) (token : Token)
    (rest : List (Option Char)) :
    tokensFrom (.word (letters ++ [last]) token) (letters.map some ++ some last :: rest) =
      (tokensFrom .between rest).map (token :: ·) := by
  have ended : Lexing.step (.word [last] token) (some last) = some (.between, [token]) := by
    simp [Lexing.step]
  induction letters with
  | nil => exact tokensFrom_step ended rest
  | cons letter letters ih =>
      have taken : Lexing.step (.word (letter :: (letters ++ [last])) token) (some letter) =
          some (.word (letters ++ [last]) token, []) := by
        cases letters <;> simp [Lexing.step]
      exact (tokensFrom_silent taken _).trans ih

theorem spells_null : Value.null.Spells .null := by
  intro rest _
  exact (tokensFrom_silent rfl _).trans (tokens_word ['u', 'l'] 'l' .null rest)

theorem spells_bool (b : Bool) : (Value.bool b).Spells (.bool b) := by
  intro rest _
  cases b with
  | true => exact (tokensFrom_silent rfl _).trans (tokens_word ['r', 'u'] 'e' (.bool true) rest)
  | false =>
      exact (tokensFrom_silent rfl _).trans (tokens_word ['a', 'l', 's'] 'e' (.bool false) rest)

theorem spells_string (s : String) : (Value.string s).Spells (.string (literal s)) := by
  intro rest _
  rw [Value.write, Doc.tokens]
  exact emits_writeString s rest

theorem delimits_items (items : List Value) (rest : List (Option Char)) :
    Delimits ((writeItems items).map some ++ some ']' :: rest) := by
  cases items with
  | nil => exact .closeArray rest
  | cons item items =>
      rw [writeItems]
      exact .comma _

theorem delimits_members (members : List (String × Value)) (rest : List (Option Char)) :
    Delimits ((writeMembers members).map some ++ some '\x7d' :: rest) := by
  cases members with
  | nil => exact .closeObject rest
  | cons member members =>
      rw [writeMembers]
      exact .comma _

section
variable {rest : List (Option Char)}

theorem emits_comma : Emits [','] [.comma] rest := tokensFrom_step rfl rest

theorem emits_colon : Emits [':'] [.colon] rest := tokensFrom_step rfl rest

theorem emits_openArray : Emits ['['] [.openArray] rest := tokensFrom_step rfl rest

theorem emits_closeArray : Emits [']'] [.closeArray] rest := tokensFrom_step rfl rest

theorem emits_openObject : Emits ['\x7b'] [.openObject] rest := tokensFrom_step rfl rest

theorem emits_closeObject : Emits ['\x7d'] [.closeObject] rest := tokensFrom_step rfl rest

theorem emits_items {items : List Value} {docs : List Doc}
    (spelled : List.Forall₂ Value.Spells items docs) :
    Emits (writeItems items) (itemTokens docs) (some ']' :: rest) := by
  induction spelled with
  | nil => exact Option.map_id'.symm
  | cons first _ ih =>
      rw [writeItems, itemTokens]
      exact (emits_comma.append (first _ (delimits_items _ _))).append ih

theorem spells_array {items : List Value} {docs : List Doc}
    (spelled : List.Forall₂ Value.Spells items docs) :
    (Value.array items).Spells (.array docs) := by
  intro rest _
  cases spelled with
  | nil =>
      rw [Value.write, Doc.tokens]
      exact emits_openArray.append emits_closeArray
  | @cons item doc items docs first others =>
      rw [Value.write, Doc.tokens]
      have opened := emits_openArray.append (first _ (delimits_items items rest))
      exact (opened.append (emits_items others)).append emits_closeArray

def SpellsMember (member : String × Value) (doc : String × Doc) : Prop :=
  member.1 = doc.1 ∧ member.2.Spells doc.2

theorem spellsMember (name : String) {v : Value} {doc : Doc} (spelled : v.Spells doc) :
    SpellsMember (name, v) (name, doc) :=
  ⟨rfl, spelled⟩

def spelledMembers (docs : List (String × Doc)) : List (Literal × Doc) :=
  docs.map fun m => (literal m.1, m.2)

theorem emits_member (key : String) {v : Value} {doc : Doc} (spelled : v.Spells doc)
    (delimits : Delimits rest) :
    Emits (writeString key ++ ':' :: v.write) (.string (literal key) :: .colon :: doc.tokens)
      rest :=
  (emits_writeString key _).append (emits_colon.append (spelled rest delimits))

theorem emits_members {members : List (String × Value)} {docs : List (String × Doc)}
    (spelled : List.Forall₂ SpellsMember members docs) :
    Emits (writeMembers members) (memberTokens (spelledMembers docs)) (some '\x7d' :: rest) := by
  induction spelled with
  | nil => exact Option.map_id'.symm
  | @cons member doc members docs first _ ih =>
      obtain ⟨key, v⟩ := member
      obtain ⟨key', doc⟩ := doc
      obtain ⟨rfl, spelled⟩ := first
      have one := emits_comma.append <|
        emits_member key spelled (delimits_members members rest)
      rw [writeMembers, spelledMembers, List.map_cons, memberTokens]
      exact one.append ih

theorem spells_object {members : List (String × Value)} {docs : List (String × Doc)}
    (spelled : List.Forall₂ SpellsMember members docs) :
    (Value.object members).Spells (.object (spelledMembers docs)) := by
  intro rest _
  cases spelled with
  | nil =>
      rw [Value.write, spelledMembers, List.map_nil, Doc.tokens]
      exact emits_openObject.append emits_closeObject
  | @cons member doc members docs first others =>
      obtain ⟨key, v⟩ := member
      obtain ⟨key', doc⟩ := doc
      obtain ⟨rfl, spelled⟩ := first
      have opened := emits_openObject.append
        (emits_member key spelled (delimits_members members rest))
      rw [Value.write, spelledMembers, List.map_cons, Doc.tokens]
      exact (opened.append (emits_members others)).append emits_closeObject

end

theorem Value.Spells.ofText? {v : Value} {doc : Doc} (spelled : v.Spells doc) :
    Doc.ofText? v.compact = some doc := by
  have tokens : tokens? (v.write.map some) = some doc.tokens := by
    have emitted := spelled [] .ending
    rw [Emits, List.append_nil] at emitted
    exact emitted.trans (by simp [tokensFrom, lexFrom])
  rw [Doc.ofText?, Value.compact, String.toList_ofList, Doc.ofChars?, tokens, Option.bind_some,
    Doc.ofTokens?_tokens]

end ClusterClient.Json
