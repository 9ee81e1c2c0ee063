import Mathlib.Data.List.DropRight
import Mathlib.Data.List.Induction
import Mathlib.Data.List.Nodup
import Mathlib.Tactic.Lemma
import TemplateServer.Template.Basic

/-! What rows of lines declare, read as a whole. -/

namespace TemplateServer.Template

structure IsDeclaration (line : Text) : Prop where
  ne_nil : line ≠ []
  not_markup : line.head? ≠ some '<'
  no_bracket : '[' ∉ line
  no_bar : '|' ∉ line

structure IsOptionLine (line : Text) : Prop where
  ne_nil : line ≠ []
  not_markup : line.head? ≠ some '<'
  no_bracket : '[' ∉ line
  has_bar : '|' ∈ line

lemma isPlain_iff {line : Text} :
    isPlain line = true ↔ line ≠ [] ∧ line.head? ≠ some '<' ∧ '[' ∉ line := by
  simp only [isPlain, Bool.and_eq_true, Bool.not_eq_true', List.isEmpty_eq_false_iff, bne_iff_ne,
    List.contains_eq_mem, decide_eq_false_iff_not, and_assoc]

lemma declares_iff {line : Text} : declares line = true ↔ IsDeclaration line := by
  rw [declares, Bool.and_eq_true, isPlain_iff, Bool.not_eq_true', List.contains_eq_mem,
    decide_eq_false_iff_not]
  constructor
  · rintro ⟨⟨hne, hm, hb⟩, hbar⟩
    exact ⟨hne, hm, hb, hbar⟩
  · rintro ⟨hne, hm, hb, hbar⟩
    exact ⟨⟨hne, hm, hb⟩, hbar⟩

lemma offers_iff {line : Text} : offers line = true ↔ IsOptionLine line := by
  rw [offers, Bool.and_eq_true, isPlain_iff, List.contains_eq_mem, decide_eq_true_eq]
  constructor
  · rintro ⟨⟨hne, hm, hb⟩, hbar⟩
    exact ⟨hne, hm, hb, hbar⟩
  · rintro ⟨hne, hm, hb, hbar⟩
    exact ⟨⟨hne, hm, hb⟩, hbar⟩

instance : DecidablePred IsDeclaration := fun line =>
  decidable_of_iff (declares line = true) declares_iff

instance : DecidablePred IsOptionLine := fun line =>
  decidable_of_iff (offers line = true) offers_iff

/-- Below the last declaration of the name stands this block, and after it the next declaration. -/
structure Below (ls : List Text) (name : Text) (block after : List Text) : Prop where
  split : ∃ before, ls = before ++ name :: (block ++ after)
  block_plain : ∀ line ∈ block, ¬ IsDeclaration line
  after_starts : ∀ line ∈ after.head?, IsDeclaration line
  last : name ∉ after

def optionsIn (block : List Text) : List Text :=
  (block.filter (IsOptionLine ·)).flatMap fun line => (Text.pieces '|' line).map Text.trim

lemma optionsIn_eq (block : List Text) :
    optionsIn block = (block.filter (IsOptionLine ·)).flatMap optionsOf := rfl

lemma optionsIn_concat (block : List Text) (line : Text) :
    optionsIn (block ++ [line]) = optionsIn block ++ optionsIn [line] := by
  simp only [optionsIn_eq, List.filter_append, List.flatMap_append]

structure IsReading (ls : List Text) (lists : List OptionList) : Prop where
  names : lists.map OptionList.name = (ls.filter (IsDeclaration ·)).eraseDups
  options : ∀ l ∈ lists, ∃ block after, Below ls l.name block after ∧ l.options = optionsIn block

section Below

variable {ls block after : List Text} {name line : Text}

lemma Below.at_end (ls : List Text) (name : Text) : Below (ls ++ [name]) name [] [] := by
  refine ⟨⟨ls, rfl⟩, ?_, ?_, ?_⟩ <;> simp

lemma Below.grow (h : Below ls name block []) (hl : ¬ IsDeclaration line) :
    Below (ls ++ [line]) name (block ++ [line]) [] := by
  obtain ⟨before, rfl⟩ := h.split
  refine ⟨⟨before, by simp⟩, ?_, h.after_starts, h.last⟩
  intro l hm
  rcases List.mem_append.mp hm with hm | hm
  · exact h.block_plain l hm
  · exact List.mem_singleton.mp hm ▸ hl

lemma Below.past (h : Below ls name block after) (hne : line ≠ name)
    (hend : after = [] → IsDeclaration line) : Below (ls ++ [line]) name block (after ++ [line]) := by
  obtain ⟨before, rfl⟩ := h.split
  refine ⟨⟨before, by simp⟩, h.block_plain, ?_, ?_⟩
  · cases after with
    | nil =>
      rintro l ⟨⟩
      exact hend rfl
    | cons a rest => exact h.after_starts
  · simpa only [List.mem_append, List.mem_singleton, not_or] using ⟨h.last, Ne.symm hne⟩

lemma Below.block_eq (hn : IsDeclaration name) (h : Below ls name block after) :
    block = (ls.rtakeWhile (· ≠ name)).takeWhile (¬ IsDeclaration ·) := by
  obtain ⟨before, rfl⟩ := h.split
  have hb : name ∉ block := fun hm => h.block_plain name hm hn
  have hr : (before ++ name :: (block ++ after)).rtakeWhile (· ≠ name) = block ++ after := by
    have hm : ∀ l ∈ (block ++ after).reverse, decide (l ≠ name) = true := by
      intro l hl
      rw [List.mem_reverse, List.mem_append] at hl
      exact decide_eq_true (fun e => hl.elim (e ▸ hb) (e ▸ h.last))
    rw [List.rtakeWhile, List.reverse_append, List.reverse_cons, List.append_assoc,
      List.takeWhile_append_of_pos hm]
    simp
  have ha : after.takeWhile (¬ IsDeclaration ·) = [] := by
    cases after with
    | nil => rfl
    | cons a rest => simp [h.after_starts a rfl]
  rw [hr, List.takeWhile_append_of_pos (by simpa using h.block_plain), ha, List.append_nil]

lemma Below.getLast? (hn : IsDeclaration name) (h : Below ls name block []) :
    (ls.filter (IsDeclaration ·)).getLast? = some name := by
  obtain ⟨before, rfl⟩ := h.split
  have hb : block.filter (IsDeclaration ·) = [] := by
    simpa [List.filter_eq_nil_iff] using h.block_plain
  simp [List.filter_cons_of_pos, hn, hb]

end Below

lemma filter_concat_declaration {ls : List Text} {line : Text} (hd : IsDeclaration line) :
    (ls ++ [line]).filter (IsDeclaration ·) = ls.filter (IsDeclaration ·) ++ [line] := by
  simp [hd]

lemma filter_concat_other {ls : List Text} {line : Text} (hd : ¬ IsDeclaration line) :
    (ls ++ [line]).filter (IsDeclaration ·) = ls.filter (IsDeclaration ·) := by
  simp [hd]

section EraseDups

variable {α : Type} [BEq α] [LawfulBEq α]

lemma eraseDups_concat_of_mem {xs : List α} {x : α} (h : x ∈ xs) :
    (xs ++ [x]).eraseDups = xs.eraseDups := by
  simp [List.eraseDups_append, List.removeAll, h]

lemma eraseDups_concat_of_not_mem {xs : List α} {x : α} (h : x ∉ xs) :
    (xs ++ [x]).eraseDups = xs.eraseDups ++ [x] := by
  simp [List.eraseDups_append, List.removeAll, h, List.eraseDups_cons]

lemma nodup_eraseDups (xs : List α) : xs.eraseDups.Nodup := by
  induction xs using List.reverseRecOn with
  | nil => simp
  | append_singleton xs x ih =>
    by_cases h : x ∈ xs
    · rw [eraseDups_concat_of_mem h]
      exact ih
    · rw [eraseDups_concat_of_not_mem h, ← List.concat_eq_append]
      exact ih.concat (mt List.mem_eraseDups.mp h)

end EraseDups

namespace IsReading

variable {ls : List Text} {lists : List OptionList}

lemma names_nodup (h : IsReading ls lists) : (lists.map OptionList.name).Nodup :=
  h.names ▸ nodup_eraseDups _

lemma isDeclaration (h : IsReading ls lists) {l : OptionList} (hl : l ∈ lists) :
    l.name ∈ ls ∧ IsDeclaration l.name := by
  have hm : l.name ∈ lists.map OptionList.name := List.mem_map_of_mem hl
  rw [h.names, List.mem_eraseDups, List.mem_filter, decide_eq_true_eq] at hm
  exact hm

lemma eq {lists' : List OptionList} (h : IsReading ls lists) (h' : IsReading ls lists') :
    lists = lists' := by
  have hn : lists.map OptionList.name = lists'.map OptionList.name := h.names.trans h'.names.symm
  have hlength : lists.length = lists'.length := by simpa using congrArg List.length hn
  apply List.ext_getElem hlength
  intro i hi hi'
  have hname : lists[i].name = lists'[i].name := by
    simpa [hi, hi'] using congrArg (fun names => names[i]?) hn
  obtain ⟨block, after, hb, ho⟩ := h.options lists[i] (List.getElem_mem hi)
  obtain ⟨block', after', hb', ho'⟩ := h'.options lists'[i] (List.getElem_mem hi')
  have hd := (h.isDeclaration (List.getElem_mem hi)).2
  rw [← hname] at hb'
  have he : block = block' := (hb.block_eq hd).trans (hb'.block_eq hd).symm
  rw [OptionList.mk.injEq]
  exact ⟨hname, by rw [ho, ho', he]⟩

end IsReading

end TemplateServer.Template
