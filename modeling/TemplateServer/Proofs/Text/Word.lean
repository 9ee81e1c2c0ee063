import Mathlib
import TemplateServer.Proofs.Text.Trim

namespace TemplateServer.Text

lemma isWord_iff {c : Char} : isWord c = true ↔
    'A' ≤ c ∧ c ≤ 'Z' ∨ 'a' ≤ c ∧ c ≤ 'z' ∨ '0' ≤ c ∧ c ≤ '9' ∨ c = '_' := by
  simp only [isWord, Char.isAlphanum, Char.isAlpha, Char.isUpper, Char.isLower, Char.isDigit,
    Bool.or_eq_true, Bool.and_eq_true, decide_eq_true_eq, beq_iff_eq, or_assoc]
  rfl

structure IsWord (s : Text) : Prop where
  ne_nil : s ≠ []
  chars : ∀ c ∈ s, 'A' ≤ c ∧ c ≤ 'Z' ∨ 'a' ≤ c ∧ c ≤ 'z' ∨ '0' ≤ c ∧ c ≤ '9' ∨ c = '_'

lemma isWord_text_iff {s : Text} : IsWord s ↔ s ≠ [] ∧ ∀ c ∈ s, isWord c = true := by
  constructor
  · rintro ⟨hne, hs⟩
    exact ⟨hne, fun c hc => isWord_iff.mpr (hs c hc)⟩
  · rintro ⟨hne, hs⟩
    exact ⟨hne, fun c hc => isWord_iff.mp (hs c hc)⟩

lemma isBlank_of_isWord {c : Char} (h : isWord c = true) : isBlank c = false := by
  rw [isWord_iff] at h
  have hlow : '0' ≤ c := by
    rcases h with h | h | h | rfl
    · exact le_trans (by decide) h.1
    · exact le_trans (by decide) h.1
    · exact h.1
    · decide
  have hhigh : c ≤ 'z' := by
    rcases h with h | h | h | rfl
    · exact le_trans h.2 (by decide)
    · exact h.2
    · exact le_trans h.2 (by decide)
    · decide
  -- every blank lies below the digits or above the letters
  have hbelow : ∀ d < '0', c ≠ d ∧ ¬ c ≤ d :=
    fun d hd => ⟨(hd.trans_le hlow).ne', not_le.mpr (hd.trans_le hlow)⟩
  have habove : ∀ d, 'z' < d → c ≠ d ∧ ¬ d ≤ c :=
    fun d hd => ⟨(hhigh.trans_lt hd).ne, not_le.mpr (hhigh.trans_lt hd)⟩
  simp [isBlank, hbelow, habove]

namespace IsWord

variable {s : Text}

lemma not_mem (h : IsWord s) {c : Char} (hc : isWord c = false) : c ∉ s := by
  intro hm
  rw [(isWord_text_iff.mp h).2 c hm] at hc
  cases hc

lemma trim_eq (h : IsWord s) : trim s = s := by
  have hs := (isWord_text_iff.mp h).2
  apply trim_eq_self_iff.mpr
  constructor
  · intro c hc
    exact isBlank_of_isWord (hs c (List.mem_of_head? hc))
  · intro c hc
    exact isBlank_of_isWord (hs c (List.mem_of_getLast? hc))

end IsWord

end TemplateServer.Text
