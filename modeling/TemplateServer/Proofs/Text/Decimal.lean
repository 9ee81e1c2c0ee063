import Mathlib
import TemplateServer.Proofs.Text.Word

namespace TemplateServer.Text

inductive IsDecimal : Text → Nat → Prop
  | digit {d : Nat} : d < 10 → IsDecimal [Nat.digitChar d] d
  | more {s : Text} {n d : Nat} : IsDecimal s n → d < 10 →
      IsDecimal (s ++ [Nat.digitChar d]) (10 * n + d)

lemma exists_digitChar {c : Char} (h : c.isDigit = true) : ∃ d < 10, c = Nat.digitChar d := by
  obtain ⟨hlow, hhigh⟩ := Char.isDigit_iff_toNat.mp h
  have hzero : '0'.toNat = 48 := rfl
  have hnine : '9'.toNat = 57 := rfl
  have hd : c.toNat - 48 < 10 := by omega
  refine ⟨c.toNat - 48, hd, Char.toNat_inj.mp ?_⟩
  rw [Nat.toNat_digitChar_of_lt_ten hd]
  omega

lemma digitsValue_concat (s : Text) {d : Nat} (h : d < 10) :
    digitsValue (s ++ [Nat.digitChar d]) = 10 * digitsValue s + d := by
  rw [digitsValue, Nat.ofDigitChars_append, Nat.ofDigitChars_cons_digitChar_of_lt_ten h,
    Nat.ofDigitChars_nil]
  rfl

namespace IsDecimal

variable {s : Text} {n : Nat}

lemma ne_nil (h : IsDecimal s n) : s ≠ [] := by
  cases h <;> simp

lemma isDigit (h : IsDecimal s n) : ∀ c ∈ s, c.isDigit = true := by
  induction h with
  | digit hd => simp [Nat.isDigit_digitChar, hd]
  | more _ hd ih =>
    intro c hc
    rcases List.mem_append.mp hc with hc | hc
    · exact ih c hc
    · rw [List.mem_singleton.mp hc, Nat.isDigit_digitChar, decide_eq_true hd]

lemma value (h : IsDecimal s n) : digitsValue s = n := by
  induction h with
  | digit hd => exact (digitsValue_concat [] hd).trans (Nat.zero_add _)
  | more _ hd ih => rw [digitsValue_concat _ hd, ih]

end IsDecimal

lemma isDecimal_digitsValue {s : Text} (hne : s ≠ []) (h : ∀ c ∈ s, c.isDigit = true) :
    IsDecimal s (digitsValue s) := by
  -- from behind, where the digit of the ones stands
  induction s using List.reverseRecOn with
  | nil => exact absurd rfl hne
  | append_singleton s c ih =>
    obtain ⟨d, hd, rfl⟩ := exists_digitChar (h c (by simp))
    rw [digitsValue_concat s hd]
    cases s with
    | nil => simpa [digitsValue] using IsDecimal.digit hd
    | cons e s =>
      have hs : ∀ x ∈ e :: s, x.isDigit = true := fun x hx => h x (List.mem_append_left _ hx)
      exact .more (ih (List.cons_ne_nil e s) hs) hd

lemma nat?_eq_some_iff {s : Text} {n : Nat} : nat? s = some n ↔ IsDecimal s n := by
  constructor
  · intro h
    rw [nat?] at h
    split at h
    · rename_i hs
      cases h
      exact isDecimal_digitsValue hs.1 (List.all_eq_true.mp hs.2)
    · cases h
  · intro h
    rw [nat?, if_pos ⟨h.ne_nil, List.all_eq_true.mpr h.isDigit⟩, h.value]

lemma isDecimal_ofNat (n : Nat) : IsDecimal (ofNat n) n := by
  have h := isDecimal_digitsValue (s := ofNat n) Nat.toDigits_ne_nil
    (fun c hc => Nat.isDigit_of_mem_toDigits (by decide) (by decide) hc)
  rwa [digitsValue_ofNat] at h

lemma IsDecimal.zeros {s : Text} {n : Nat} (h : IsDecimal s n) (k : Nat) :
    IsDecimal (List.replicate k '0' ++ s) n := by
  have hvalue : digitsValue (List.replicate k '0' ++ s) = n := by
    rw [digitsValue, Nat.ofDigitChars_append, Nat.ofDigitChars_replicate_zero, Nat.mul_zero]
    exact h.value
  have hdigits : ∀ c ∈ List.replicate k '0' ++ s, c.isDigit = true := by
    intro c hc
    rcases List.mem_append.mp hc with hc | hc
    · rw [List.eq_of_mem_replicate hc]
      rfl
    · exact h.isDigit c hc
  rw [← hvalue]
  exact isDecimal_digitsValue (List.append_ne_nil_of_right_ne_nil _ h.ne_nil) hdigits

end TemplateServer.Text
