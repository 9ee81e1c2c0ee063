import Mathlib.Tactic.Lemma
import TemplateServer.Text.Basic

namespace TemplateServer

lemma separator_cases {α : Type} (sep : α) (s : List α) :
    sep ∉ s ∨ ∃ before after, sep ∉ before ∧ s = before ++ sep :: after := by
  by_cases h : sep ∈ s
  · obtain ⟨before, after, hs, hb⟩ := List.eq_append_cons_of_mem h
    exact Or.inr ⟨before, after, hb, hs⟩
  · exact Or.inl h

lemma separator_induction {α : Type} (sep : α) {motive : List α → Prop}
    (last : ∀ s, sep ∉ s → motive s)
    (more : ∀ before after, sep ∉ before → motive after → motive (before ++ sep :: after))
    (s : List α) : motive s := by
  -- on the length, since a step goes past a whole piece and the separator behind it
  induction hn : s.length using Nat.strongRecOn generalizing s with
  | ind n ih =>
    rcases separator_cases sep s with h | ⟨before, after, hb, rfl⟩
    · exact last s h
    · have hlt : after.length < n := by
        rw [← hn, List.length_append, List.length_cons]
        omega
      exact more before after hb (ih after.length hlt after rfl)

namespace Text

lemma piecesFrom_eq_splitOnPPrepend (sep : Char) (s piece : Text) (done : List Text) :
    piecesFrom sep s piece done = done.reverse ++ List.splitOnPPrepend (· == sep) s piece := by
  induction s generalizing piece done with
  | nil => simp [piecesFrom, List.splitOnPPrepend_nil]
  | cons c rest ih =>
    by_cases h : c = sep
    · rw [piecesFrom, if_pos h, ih, List.splitOnPPrepend_cons_pos (by simpa using h),
        List.splitOnPPrepend_nil_right, List.reverse_cons, List.append_assoc,
        List.singleton_append]
    · rw [piecesFrom, if_neg h, ih, List.splitOnPPrepend_cons_neg (by simpa using h)]

lemma pieces_eq_splitOn (sep : Char) (s : Text) : pieces sep s = s.splitOn sep := by
  rw [pieces, piecesFrom_eq_splitOnPPrepend, List.splitOnPPrepend_nil_right]
  rfl

lemma pieces_ne_nil (sep : Char) (s : Text) : pieces sep s ≠ [] := by
  rw [pieces_eq_splitOn]
  exact List.splitOn_ne_nil sep s

lemma pieces_of_not_mem {sep : Char} {s : Text} (h : sep ∉ s) : pieces sep s = [s] := by
  rw [pieces_eq_splitOn, List.splitOn_eq_singleton h]

lemma pieces_append_sep (sep : Char) (s t : Text) :
    pieces sep (s ++ sep :: t) = pieces sep s ++ pieces sep t := by
  rw [pieces_eq_splitOn, pieces_eq_splitOn, pieces_eq_splitOn, List.splitOn_append_cons_self]

lemma pieces_append_cons {sep : Char} {before : Text} (h : sep ∉ before) (after : Text) :
    pieces sep (before ++ sep :: after) = before :: pieces sep after := by
  rw [pieces_append_sep, pieces_of_not_mem h, List.singleton_append]

lemma append_cons_inj {sep : Char} {before before' after after' : Text} (h : sep ∉ before)
    (h' : sep ∉ before') (he : before ++ sep :: after = before' ++ sep :: after') :
    before = before' ∧ after = after' := by
  have hp := congrArg (pieces sep) he
  rw [pieces_append_cons h, pieces_append_cons h'] at hp
  obtain rfl := (List.cons.inj hp).1
  exact ⟨rfl, (List.cons.inj (List.append_cancel_left he)).2⟩

lemma pieces_cases (sep : Char) (s : Text) :
    (sep ∉ s ∧ pieces sep s = [s]) ∨ ∃ before after, sep ∉ before ∧ s = before ++ sep :: after ∧
      pieces sep s = before :: pieces sep after := by
  rcases separator_cases sep s with h | ⟨before, after, hb, rfl⟩
  · exact Or.inl ⟨h, pieces_of_not_mem h⟩
  · exact Or.inr ⟨before, after, hb, rfl, pieces_append_cons hb after⟩

lemma of_mem_pieces {sep : Char} {s p : Text} (hp : p ∈ pieces sep s) : sep ∉ p ∧ p ⊆ s := by
  induction s using separator_induction sep with
  | last s h =>
    rw [pieces_of_not_mem h, List.mem_singleton] at hp
    subst hp
    exact ⟨h, List.Subset.refl p⟩
  | more before after hb ih =>
    rw [pieces_append_cons hb] at hp
    rcases List.mem_cons.mp hp with rfl | hp
    · exact ⟨hb, List.subset_append_left _ _⟩
    · obtain ⟨h, hs⟩ := ih hp
      exact ⟨h, fun c hc => List.mem_append_right before (List.mem_cons_of_mem sep (hs hc))⟩

lemma pieces_intercalate {sep : Char} {ps : List Text} (hne : ps ≠ []) (h : ∀ p ∈ ps, sep ∉ p) :
    pieces sep ([sep].intercalate ps) = ps := by
  rw [pieces_eq_splitOn, List.splitOn_intercalate sep h hne]

lemma not_mem_intercalate {sep c : Char} {ps : List Text} (hc : c ≠ sep) (h : ∀ p ∈ ps, c ∉ p) :
    c ∉ [sep].intercalate ps := by
  induction ps with
  | nil => exact List.not_mem_nil
  | cons p ps ih =>
    obtain ⟨hp, hps⟩ := List.forall_mem_cons.mp h
    cases ps with
    | nil => rwa [List.intercalate_singleton]
    | cons q ps =>
      rw [List.intercalate_cons_cons, List.append_assoc, List.mem_append, List.singleton_append,
        List.mem_cons]
      rintro (hm | hm | hm)
      · exact hp hm
      · exact hc hm
      · exact ih hps hm

end Text

end TemplateServer
