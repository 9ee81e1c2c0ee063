import Mathlib.Data.List.DropRight
import Mathlib.Tactic.Lemma
import TemplateServer.Text.Blank

namespace TemplateServer.Text

lemma trimEnd_eq_rdropWhile (s : Text) : trimEnd s = s.rdropWhile isBlank := rfl

lemma isInfix_trim (s : Text) : trim s <:+: s :=
  (List.rdropWhile_prefix isBlank (trimStart s)).isInfix.trans
    (List.dropWhile_suffix isBlank).isInfix

lemma trim_subset (s : Text) : trim s ⊆ s := (isInfix_trim s).subset

lemma trimStart_eq_self {s : Text} (h : ∀ c ∈ s.head?, isBlank c = false) : trimStart s = s := by
  cases s with
  | nil => rfl
  | cons c rest => rw [trimStart, List.dropWhile_cons_of_neg (by simpa using h)]

lemma trimEnd_eq_self {s : Text} (h : ∀ c ∈ s.getLast?, isBlank c = false) : trimEnd s = s := by
  rw [trimEnd_eq_rdropWhile, List.rdropWhile_eq_self_iff]
  intro hne
  rw [h _ (List.getLast?_eq_some_getLast hne ▸ rfl)]
  exact Bool.false_ne_true

lemma isBlank_of_mem_head?_trimStart {s : Text} {c : Char} (hc : c ∈ (trimStart s).head?) :
    isBlank c = false := by
  have h := List.head?_dropWhile_not isBlank s
  rw [trimStart] at hc
  simp_all

lemma isBlank_of_mem_getLast?_trimEnd {s : Text} {c : Char} (hc : c ∈ (trimEnd s).getLast?) :
    isBlank c = false := by
  rw [trimEnd, List.getLast?_reverse] at hc
  exact isBlank_of_mem_head?_trimStart hc

lemma head?_trimEnd {s : Text} {c : Char} (hs : s.head? = some c) (hc : isBlank c = false) :
    (trimEnd s).head? = some c := by
  cases s with
  | nil => cases hs
  | cons d rest =>
    obtain rfl := Option.some.inj hs
    rw [trimEnd, List.reverse_cons, List.dropWhile_append]
    split
    · simp [hc]
    · simp

lemma head?_trim {s : Text} {c : Char} (hs : s.head? = some c) (hc : isBlank c = false) :
    (trim s).head? = some c := by
  have hh : ∀ d ∈ s.head?, isBlank d = false := by
    intro d hd
    obtain rfl := Option.some.inj (hs.symm.trans hd)
    exact hc
  rw [trim, trimStart_eq_self hh, head?_trimEnd hs hc]

lemma trimEnd_concat {c : Char} (hc : isBlank c = true) (s : Text) :
    trimEnd (s ++ [c]) = trimEnd s := by
  rw [trimEnd_eq_rdropWhile, trimEnd_eq_rdropWhile, List.rdropWhile_concat_pos _ _ _ hc]

lemma trim_concat {c : Char} (hc : isBlank c = true) (s : Text) : trim (s ++ [c]) = trim s := by
  rw [trim, trim, trimStart, trimStart, List.dropWhile_append]
  split
  · next h =>
    rw [List.isEmpty_iff.mp h, List.dropWhile_cons_of_pos hc, List.dropWhile_nil]
  · exact trimEnd_concat hc _

lemma trim_blanks_append {before : Text} (h : ∀ c ∈ before, isBlank c = true) (s : Text) :
    trim (before ++ s) = trim s := by
  rw [trim, trim, trimStart, trimStart, List.dropWhile_append_of_pos h]

lemma trim_append_blanks {after : Text} (h : ∀ c ∈ after, isBlank c = true) (s : Text) :
    trim (s ++ after) = trim s := by
  induction after generalizing s with
  | nil => rw [List.append_nil]
  | cons c after ih =>
    obtain ⟨hc, hafter⟩ := List.forall_mem_cons.mp h
    rw [List.append_cons, ih hafter, trim_concat hc]

lemma exists_blanks (s : Text) : ∃ before after, (∀ c ∈ before, isBlank c = true) ∧
    (∀ c ∈ after, isBlank c = true) ∧ s = before ++ trim s ++ after := by
  refine ⟨s.takeWhile isBlank, (trimStart s).rtakeWhile isBlank,
    fun c hc => List.mem_takeWhile_imp hc, fun c hc => List.mem_rtakeWhile_imp hc, ?_⟩
  have hend : trim s ++ (trimStart s).rtakeWhile isBlank = trimStart s :=
    List.rdropWhile_append_rtakeWhile
  rw [List.append_assoc, hend]
  exact List.takeWhile_append_dropWhile.symm

lemma isBlank_ends_trim (s : Text) :
    (∀ c ∈ (trim s).head?, isBlank c = false) ∧ ∀ c ∈ (trim s).getLast?, isBlank c = false := by
  refine ⟨?_, fun c hc => isBlank_of_mem_getLast?_trimEnd hc⟩
  intro c hc
  cases hs : (trimStart s).head? with
  | none =>
    rw [trim, List.head?_eq_none_iff.mp hs] at hc
    cases hc
  | some d =>
    have hd : isBlank d = false := isBlank_of_mem_head?_trimStart hs
    rw [trim, head?_trimEnd hs hd] at hc
    exact Option.some.inj hc ▸ hd

lemma trim_eq_self_iff {s : Text} :
    trim s = s ↔ (∀ c ∈ s.head?, isBlank c = false) ∧ ∀ c ∈ s.getLast?, isBlank c = false := by
  constructor
  · intro h
    exact h ▸ isBlank_ends_trim s
  · rintro ⟨hh, hl⟩
    rw [trim, trimStart_eq_self hh, trimEnd_eq_self hl]

lemma trim_trim (s : Text) : trim (trim s) = trim s :=
  trim_eq_self_iff.mpr (isBlank_ends_trim s)

lemma mem_trim {s : Text} {c : Char} (h : c ∈ s) (hc : isBlank c = false) : c ∈ trim s := by
  have hdrop : ∀ t : Text, c ∈ t → c ∈ t.dropWhile isBlank := by
    intro t ht
    rw [← List.takeWhile_append_dropWhile (p := isBlank) (l := t), List.mem_append] at ht
    apply ht.resolve_left
    intro hm
    rw [List.mem_takeWhile_imp hm] at hc
    cases hc
  rw [trim, trimEnd, List.mem_reverse]
  exact hdrop _ (List.mem_reverse.mpr (hdrop s h))

lemma map_trim_eq_self {ps : List Text} (h : ∀ p ∈ ps, trim p = p) : ps.map trim = ps :=
  (List.map_congr_left h).trans (List.map_id ps)

lemma trim_append_cons {sep : Char} (hsep : isBlank sep = false) {s t : Text} (hs : trim s = s)
    (ht : trim t = t) : trim (s ++ sep :: t) = s ++ sep :: t := by
  have hs := (trim_eq_self_iff.mp hs).1
  have ht := (trim_eq_self_iff.mp ht).2
  apply trim_eq_self_iff.mpr
  constructor
  · cases s with
    | nil => simpa using hsep
    | cons c rest => exact hs
  · rw [List.getLast?_append, List.getLast?_cons]
    cases hl : t.getLast? with
    | none => simpa using hsep
    | some c => simpa using ht c hl

lemma trim_intercalate {sep : Char} (hsep : isBlank sep = false) {ps : List Text}
    (h : ∀ p ∈ ps, trim p = p) : trim ([sep].intercalate ps) = [sep].intercalate ps := by
  induction ps with
  | nil => rfl
  | cons p ps ih =>
    obtain ⟨hp, hps⟩ := List.forall_mem_cons.mp h
    cases ps with
    | nil => rwa [List.intercalate_singleton]
    | cons q ps =>
      rw [List.intercalate_cons_cons, List.append_assoc, List.singleton_append]
      exact trim_append_cons hsep hp (ih hps)

end TemplateServer.Text
