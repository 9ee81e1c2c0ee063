import Mathlib.Tactic.Lemma
import TemplateServer.Json.Token

namespace TemplateServer.Json

/-- What may stand behind a value: nothing, or what ends it. -/
def Ends (rest : Text) : Prop := ∀ c ∈ rest.head?, c = ',' ∨ c = ']' ∨ c = '\x7d'

lemma ends_nil : Ends [] := by
  intro c hc
  cases hc

lemma ends_cons {c : Char} (h : c = ',' ∨ c = ']' ∨ c = '\x7d') (rest : Text) : Ends (c :: rest) := by
  rintro _ ⟨⟩
  exact h

lemma Ends.head?_ne {rest : Text} (h : Ends rest) {c : Char} (hc : c ∉ [',', ']', '\x7d']) :
    rest.head? ≠ some c := by
  intro hm
  have hends := h c hm
  simp [hends] at hc

lemma Ends.not_isDigit {rest : Text} (h : Ends rest) : ∀ c ∈ rest.head?, c.isDigit = false := by
  intro c hc
  rcases h c hc with rfl | rfl | rfl <;> rfl

section

variable {p : Char → Bool} {s : Text} (h : ∀ c ∈ s.head?, p c = false)

include h

lemma takeWhile_of_head? : s.takeWhile p = [] := by
  cases s with
  | nil => rfl
  | cons c rest => simp [h c rfl]

lemma dropWhile_of_head? : s.dropWhile p = s := by
  cases s with
  | nil => rfl
  | cons c rest => simp [h c rfl]

end

namespace Numeral

def ofInt (n : Int) : Numeral := ⟨decide (n < 0), Text.ofNat n.natAbs, [], none⟩

section

variable {s : Text}

lemma scanSign_of_head? (h : s.head? ≠ some '-') : scanSign s = (false, s) := by
  rw [scanSign]
  rintro rest rfl
  exact h rfl

lemma scanExponentSign_of_head? (hminus : s.head? ≠ some '-') (hplus : s.head? ≠ some '+') :
    scanExponentSign s = (false, s) := by
  rw [scanExponentSign]
  · rintro rest rfl
    exact hminus rfl
  · rintro rest rfl
    exact hplus rfl

lemma scanFraction?_of_head? (h : s.head? ≠ some '.') : scanFraction? s = some ([], s) := by
  rw [scanFraction?]
  rintro rest rfl
  exact h rfl

lemma scanExponent?_of_head? (hlower : s.head? ≠ some 'e') (hupper : s.head? ≠ some 'E') :
    scanExponent? s = some (none, s) := by
  cases s with
  | nil => rfl
  | cons c rest =>
    rw [scanExponent?, if_neg]
    rintro (rfl | rfl)
    · exact hlower rfl
    · exact hupper rfl

end

lemma isDigit_of_mem_ofNat {n : Nat} {c : Char} (h : c ∈ Text.ofNat n) : c.isDigit = true :=
  Nat.isDigit_of_mem_toDigits (by decide) (by decide) h

lemma ofNat_eq_cons {n : Nat} (h : 0 < n) : ∃ c rest, Text.ofNat n = c :: rest ∧ c ≠ '0' := by
  induction n using Nat.strongRecOn with
  | ind n ih =>
    by_cases hn : n < 10
    · have hc : ∀ m < 10, 0 < m → Nat.digitChar m ≠ '0' := by decide
      exact ⟨_, [], Nat.toDigits_of_lt_base hn, hc n hn h⟩
    · obtain ⟨c, rest, hr, hc⟩ := ih (n / 10) (by omega) (by omega)
      refine ⟨c, rest ++ [Nat.digitChar (n % 10)], ?_, hc⟩
      rw [Text.ofNat, Nat.toDigits_of_base_le (by decide) (Nat.le_of_not_lt hn)]
      exact congrArg (· ++ [Nat.digitChar (n % 10)]) hr

lemma wholeOk_ofNat (n : Nat) : wholeOk (Text.ofNat n) = true := by
  cases Nat.eq_zero_or_pos n with
  | inl h =>
    subst h
    rfl
  | inr h =>
    obtain ⟨c, rest, hr, hc⟩ := ofNat_eq_cons h
    simp [hr, wholeOk, hc]

lemma scanSign_ofNat (n : Nat) (rest : Text) :
    scanSign (Text.ofNat n ++ rest) = (false, Text.ofNat n ++ rest) := by
  apply scanSign_of_head?
  cases hd : Text.ofNat n with
  | nil => exact absurd hd Nat.toDigits_ne_nil
  | cons c digits =>
    have hc : c.isDigit = true := isDigit_of_mem_ofNat (by rw [hd]; exact List.mem_cons_self)
    rintro ⟨⟩
    cases hc

lemma scan?_ofInt (n : Int) {rest : Text} (h : Ends rest) :
    scan? (Text.ofInt n ++ rest) = some (ofInt n, rest) := by
  have hsign : scanSign (Text.ofInt n ++ rest) = (decide (n < 0), Text.ofNat n.natAbs ++ rest) := by
    cases n with
    | ofNat n => exact scanSign_ofNat n rest
    | negSucc n =>
      rw [decide_eq_true (Int.negSucc_lt_zero n)]
      rfl
  have hdigits : ∀ c ∈ Text.ofNat n.natAbs, c.isDigit = true := fun c => isDigit_of_mem_ofNat
  rw [scan?, hsign]
  simp only [List.takeWhile_append_of_pos hdigits, List.dropWhile_append_of_pos hdigits,
    takeWhile_of_head? h.not_isDigit, dropWhile_of_head? h.not_isDigit, List.append_nil, wholeOk_ofNat,
    if_true]
  simp [scanFraction?_of_head? (h.head?_ne (by decide)),
    scanExponent?_of_head? (h.head?_ne (by decide)) (h.head?_ne (by decide)), ofInt]

lemma value?_ofInt {n : Int} (hlow : -0x8000000000000000 ≤ n) (hhigh : n < UInt64.size) :
    (ofInt n).value? = some (.int n) := by
  have hw : Text.digitsValue (Text.ofNat n.natAbs) = n.natAbs := Text.digitsValue_ofNat n.natAbs
  simp only [value?, ofInt, hw]
  by_cases hn : n < 0
  · have hv : -(n.natAbs : Int) = n := by omega
    rw [if_neg (by simp [hn]), if_pos ⟨trivial, trivial, by omega, by omega⟩, hv]
  · have hv : (n.natAbs : Int) = n := by omega
    rw [if_pos ⟨trivial, trivial, by omega, by simp [hn]⟩, hv]

end Numeral

lemma next?_number {c : Char} (h : c.isDigit = true ∨ c = '-') (rest : Text) :
    Token.next? c rest =
      (Numeral.scan? (c :: rest)).map fun (n, rest) => (Token.number n, rest) := by
  rw [Token.next?]
  all_goals
    rintro rfl
    rcases h with h | h <;> cases h

lemma ofInt_eq_cons (n : Int) :
    ∃ c digits, Text.ofInt n = c :: digits ∧ (c.isDigit = true ∨ c = '-') := by
  cases n with
  | ofNat n =>
    cases hd : Text.ofNat n with
    | nil => exact absurd hd Nat.toDigits_ne_nil
    | cons c digits =>
      have hc : c ∈ Text.ofNat n := by
        rw [hd]
        exact List.mem_cons_self
      exact ⟨c, digits, hd, Or.inl (Numeral.isDigit_of_mem_ofNat hc)⟩
  | negSucc n => exact ⟨'-', _, rfl, Or.inr rfl⟩

end TemplateServer.Json
