import Mathlib.Tactic.Lemma
import TemplateServer.Random.Word

namespace TemplateServer

namespace WordSource

section

variable {b w n : Nat}

lemma position_lt (hw : w < b) (hn : 0 < n) : w * n / b < n := by
  apply Nat.div_lt_of_lt_mul
  exact Nat.mul_lt_mul_of_pos_right hw hn

lemma position_succ_lt (hw : w < b) (hn : n ≤ b) (hlow : b - n < w * n % b) :
    w * n / b + 1 < n := by
  have hsplit := Nat.div_add_mod' (w * n) b
  have hword : (w + 1) * n ≤ b * n := Nat.mul_le_mul_right n hw
  rw [Nat.add_mul, Nat.one_mul, Nat.mul_comm b n] at hword
  apply Nat.lt_of_not_le
  intro hlast
  have hnext : n * b ≤ (w * n / b + 1) * b := Nat.mul_le_mul_right b hlast
  rw [Nat.add_mul, Nat.one_mul] at hnext
  omega

lemma exists_word {p : Nat} (hp : p < n) (hn : n ≤ b) : ∃ w < b, w * n / b = p := by
  have hpos : 0 < n := Nat.zero_lt_of_lt hp
  have hbelow : (p + 1) * b ≤ n * b := Nat.mul_le_mul_right b hp
  have hsplit := Nat.div_add_mod' (p * b + (n - 1)) n
  have hrest := Nat.mod_lt (p * b + (n - 1)) hpos
  rw [Nat.add_mul, Nat.one_mul] at hbelow
  refine ⟨(p * b + (n - 1)) / n, ?_, ?_⟩
  · apply Nat.div_lt_of_lt_mul
    omega
  · apply Nat.div_eq_of_lt_le
    · omega
    · rw [Nat.add_mul, Nat.one_mul]
      omega

end

inductive Chooses (n : Nat) : List UInt32 → Nat → Prop
  | settled {w : UInt32} : w.toNat * n % UInt32.size ≤ UInt32.size - n →
      Chooses n [w] (w.toNat * n / UInt32.size)
  | kept {w v : UInt32} : UInt32.size - n < w.toNat * n % UInt32.size →
      w.toNat * n % UInt32.size + v.toNat * n / UInt32.size < UInt32.size →
      Chooses n [w, v] (w.toNat * n / UInt32.size)
  | carried {w v : UInt32} : UInt32.size - n < w.toNat * n % UInt32.size →
      UInt32.size ≤ w.toNat * n % UInt32.size + v.toNat * n / UInt32.size →
      Chooses n [w, v] (w.toNat * n / UInt32.size + 1)

namespace Chooses

variable {n i : Nat} {words : List UInt32}

lemma lt (h : Chooses n words i) (hpos : 0 < n) (hn : n ≤ UInt32.size) : i < n := by
  cases h with
  | @settled w _ | @kept w _ _ _ => exact position_lt w.toNat_lt_size hpos
  | @carried w _ hlow _ => exact position_succ_lt w.toNat_lt_size hn hlow

lemma length (h : Chooses n words i) : words.length = 1 ∨ words.length = 2 := by
  cases h with
  | settled => exact Or.inl rfl
  | kept | carried => exact Or.inr rfl

lemma exists_words (hi : i < n) (hn : n ≤ UInt32.size) : ∃ words, Chooses n words i := by
  obtain ⟨m, hm, rfl⟩ := exists_word hi hn
  obtain ⟨w, rfl⟩ : ∃ w : UInt32, w.toNat = m := ⟨.ofNatLT m hm, UInt32.toNat_ofNatLT⟩
  by_cases hlow : w.toNat * n % UInt32.size ≤ UInt32.size - n
  · exact ⟨[w], .settled hlow⟩
  · -- a second word of zero carries nothing
    refine ⟨[w, 0], .kept (Nat.lt_of_not_le hlow) ?_⟩
    rw [UInt32.toNat_zero, Nat.zero_mul, Nat.zero_div, Nat.add_zero]
    exact Nat.mod_lt _ (by decide)

end Chooses

variable {σ : Type} [WordSource σ]

inductive Gives : σ → List UInt32 → σ → Prop
  | nil {s : σ} : Gives s [] s
  | cons {s after : σ} {words : List UInt32} : Gives (next s).2 words after →
      Gives s ((next s).1 :: words) after

lemma gives_append_iff {s after : σ} {xs ys : List UInt32} :
    Gives s (xs ++ ys) after ↔ ∃ between, Gives s xs between ∧ Gives between ys after := by
  constructor
  · intro h
    induction xs generalizing s with
    | nil => exact ⟨s, .nil, h⟩
    | cons x xs ih =>
      cases h with
      | cons h =>
        obtain ⟨between, hx, hy⟩ := ih h
        exact ⟨between, .cons hx, hy⟩
  · rintro ⟨between, hx, hy⟩
    induction hx with
    | nil => exact hy
    | cons _ ih => exact .cons (ih hy)

lemma chooses_index (n : Nat) (s : σ) :
    ∃ words, Chooses n words (index n s).1 ∧ Gives s words (index n s).2 := by
  simp only [index]
  split
  · rename_i hlow
    refine ⟨[(next s).1, (next (next s).2).1], ?_, .cons (.cons .nil)⟩
    split
    · rename_i hcarry
      exact .carried hlow hcarry
    · rename_i hcarry
      exact .kept hlow (Nat.lt_of_not_le hcarry)
  · rename_i hlow
    exact ⟨[(next s).1], .settled (Nat.le_of_not_lt hlow), .cons .nil⟩

lemma Chooses.index_eq {n i : Nat} {words : List UInt32} (h : Chooses n words i) {s after : σ}
    (hg : Gives s words after) : index n s = (i, after) := by
  cases h with
  | settled hlow =>
    obtain _ | ⟨_ | _⟩ := hg
    simp only [index, if_neg (Nat.not_lt_of_le hlow)]
  | kept hlow hcarry =>
    obtain _ | ⟨_ | ⟨_ | _⟩⟩ := hg
    simp only [index, if_pos hlow, if_neg (Nat.not_le_of_lt hcarry)]
  | carried hlow hcarry =>
    obtain _ | ⟨_ | ⟨_ | _⟩⟩ := hg
    simp only [index, if_pos hlow, if_pos hcarry]

end WordSource

lemma Replay.exists_gives (words all : List UInt32) (used : Nat) :
    ∃ after, WordSource.Gives (Replay.mk all words used) words after := by
  induction words generalizing used with
  | nil => exact ⟨_, .nil⟩
  | cons w words ih =>
    obtain ⟨after, h⟩ := ih (used + 1)
    exact ⟨after, .cons h⟩

end TemplateServer
