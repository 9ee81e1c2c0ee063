import Mathlib.Data.List.Forall2
import Mathlib.Data.List.GetD
import Mathlib.Tactic.Lemma
import TemplateServer.Proofs.Random.Word
import TemplateServer.Template.Fill

namespace TemplateServer

open WordSource

namespace OptionList

def HasPosition (l : OptionList) : Option Nat → Prop
  | none => l.options = []
  | some i => i < l.options.length

def optionAt (l : OptionList) : Option Nat → Text
  | none => []
  | some i => l.options.getD i []

def Grants (l : OptionList) (choice : Text) : Prop :=
  choice ∈ l.options ∨ l.options = [] ∧ choice = []

lemma grants_iff {l : OptionList} {choice : Text} :
    l.Grants choice ↔ ∃ p, l.HasPosition p ∧ l.optionAt p = choice := by
  constructor
  · rintro (h | ⟨h, rfl⟩)
    · obtain ⟨i, hi, rfl⟩ := List.mem_iff_getElem.mp h
      exact ⟨some i, hi, List.getD_eq_getElem l.options [] hi⟩
    · exact ⟨none, h, rfl⟩
  · rintro ⟨_ | i, h, rfl⟩
    · exact Or.inr ⟨h, rfl⟩
    · refine Or.inl ?_
      rw [optionAt, List.getD_eq_getElem l.options [] h]
      exact List.getElem_mem h

end OptionList

namespace Template

variable {σ : Type} [WordSource σ]

def positions : List OptionList → σ → List (Option Nat) × σ
  | [], s => ([], s)
  | l :: rest, s =>
    if l.options.isEmpty then
      let (others, s) := positions rest s
      (none :: others, s)
    else
      let (i, s) := index l.options.length s
      let (others, s) := positions rest s
      (some i :: others, s)

def optionsAt (lists : List OptionList) (picks : List (Option Nat)) : List Text :=
  List.zipWith OptionList.optionAt lists picks

lemma choices_eq (lists : List OptionList) (s : σ) :
    choices lists s = (optionsAt lists (positions lists s).1, (positions lists s).2) := by
  induction lists generalizing s with
  | nil => rfl
  | cons l rest ih =>
    by_cases he : l.options.isEmpty
    · simp only [choices, choose, positions, if_pos he, ih]
      rfl
    · simp only [choices, choose, positions, if_neg he, ih]
      rfl

lemma render_eq (source : Text) (s : σ) :
    let t := parse source
    render source s = (substitute t.lists (optionsAt t.lists (positions t.lists s).1) t.body,
      (positions t.lists s).2) := by
  intro t
  rw [render, fill, choices_eq]

lemma forall₂_grants_iff {lists : List OptionList} {choices : List Text} :
    List.Forall₂ OptionList.Grants lists choices ↔
      ∃ picks, List.Forall₂ OptionList.HasPosition lists picks ∧ optionsAt lists picks = choices := by
  constructor
  · intro h
    induction h with
    | nil => exact ⟨[], .nil, rfl⟩
    | cons hg _ ih =>
      obtain ⟨p, hp, rfl⟩ := OptionList.grants_iff.mp hg
      obtain ⟨picks, hpicks, rfl⟩ := ih
      exact ⟨p :: picks, .cons hp hpicks, rfl⟩
  · rintro ⟨picks, h, rfl⟩
    induction h with
    | nil => exact .nil
    | cons hp _ ih => exact .cons (OptionList.grants_iff.mpr ⟨_, hp, rfl⟩) ih

/-- The words that are taken for the lists in turn, and the positions that they choose: one word or
two for a list with options, and none for a list without. -/
inductive Draws : List OptionList → List UInt32 → List (Option Nat) → Prop
  | nil : Draws [] [] []
  | empty {l : OptionList} {lists : List OptionList} {words : List UInt32}
      {picks : List (Option Nat)} : l.options = [] → Draws lists words picks →
      Draws (l :: lists) words (none :: picks)
  | chosen {l : OptionList} {lists : List OptionList} {taken words : List UInt32} {i : Nat}
      {picks : List (Option Nat)} : l.options ≠ [] → Chooses l.options.length taken i →
      Draws lists words picks → Draws (l :: lists) (taken ++ words) (some i :: picks)

namespace Draws

variable {lists : List OptionList} {words : List UInt32} {picks : List (Option Nat)}

lemma hasPosition (h : Draws lists words picks)
    (hn : ∀ l ∈ lists, l.options.length < UInt32.size) :
    List.Forall₂ OptionList.HasPosition lists picks := by
  induction h with
  | nil => exact .nil
  | empty he _ ih => exact .cons he (ih (List.forall_mem_cons.mp hn).2)
  | chosen hne hc _ ih =>
    obtain ⟨hl, hrest⟩ := List.forall_mem_cons.mp hn
    exact .cons (hc.lt (List.length_pos_of_ne_nil hne) (Nat.le_of_lt hl)) (ih hrest)

lemma length (h : Draws lists words picks) :
    let drawn := lists.countP (!·.options.isEmpty)
    drawn ≤ words.length ∧ words.length ≤ 2 * drawn := by
  induction h with
  | nil => exact ⟨Nat.le_refl _, Nat.le_refl _⟩
  | empty he _ ih =>
    rw [List.countP_cons_of_neg (by simp [he])]
    exact ih
  | chosen hne hc _ ih =>
    rw [List.countP_cons_of_pos (by simp [hne]), List.length_append]
    have hlength := hc.length
    omega

lemma exists_words (h : List.Forall₂ OptionList.HasPosition lists picks)
    (hn : ∀ l ∈ lists, l.options.length < UInt32.size) : ∃ words, Draws lists words picks := by
  induction h with
  | nil => exact ⟨[], .nil⟩
  | @cons l pick lists picks hp _ ih =>
    obtain ⟨hl, hrest⟩ := List.forall_mem_cons.mp hn
    obtain ⟨words, hwords⟩ := ih hrest
    cases pick with
    | none => exact ⟨words, .empty hp hwords⟩
    | some i =>
      obtain ⟨taken, htaken⟩ := Chooses.exists_words hp (Nat.le_of_lt hl)
      exact ⟨taken ++ words, .chosen (List.ne_nil_of_length_pos (Nat.zero_lt_of_lt hp)) htaken hwords⟩

lemma positions_eq (h : Draws lists words picks) {s after : σ} (hg : Gives s words after) :
    positions lists s = (picks, after) := by
  induction h generalizing s with
  | nil =>
    cases hg
    rfl
  | empty he _ ih => rw [positions, if_pos (List.isEmpty_iff.mpr he), ih hg]
  | chosen hne hc _ ih =>
    obtain ⟨between, htaken, hwords⟩ := gives_append_iff.mp hg
    rw [positions, if_neg (by simp [hne]), hc.index_eq htaken]
    simp only [ih hwords]

end Draws

lemma draws_positions (lists : List OptionList) (s : σ) :
    ∃ words, Draws lists words (positions lists s).1 ∧ Gives s words (positions lists s).2 := by
  induction lists generalizing s with
  | nil => exact ⟨[], .nil, .nil⟩
  | cons l rest ih =>
    rw [positions]
    split
    · rename_i he
      obtain ⟨words, hd, hg⟩ := ih s
      exact ⟨words, .empty (List.isEmpty_iff.mp he) hd, hg⟩
    · rename_i hne
      obtain ⟨taken, hc, htaken⟩ := chooses_index l.options.length s
      obtain ⟨words, hd, hg⟩ := ih (index l.options.length s).2
      exact ⟨taken ++ words, .chosen (mt List.isEmpty_iff.mpr hne) hc hd,
        gives_append_iff.mpr ⟨_, htaken, hg⟩⟩

theorem render_draws {source : Text}
    (hn : ∀ l ∈ (parse source).lists, l.options.length < UInt32.size) :
    let t := parse source
    let drawn := t.lists.countP (!·.options.isEmpty)
    (∀ {σ : Type} [WordSource σ] (s : σ), ∃ picks words after,
        positions t.lists s = (picks, after) ∧
        List.Forall₂ OptionList.HasPosition t.lists picks ∧
        List.Forall₂ OptionList.Grants t.lists (optionsAt t.lists picks) ∧
        render source s = (substitute t.lists (optionsAt t.lists picks) t.body, after) ∧
        Draws t.lists words picks ∧ Gives s words after ∧
        drawn ≤ words.length ∧ words.length ≤ 2 * drawn) ∧
      (∀ picks, List.Forall₂ OptionList.HasPosition t.lists picks → ∃ words,
        Draws t.lists words picks ∧
        (∃ after, Gives (Replay.ofList words) words after) ∧
        ∀ {σ : Type} [WordSource σ] {s after : σ}, Gives s words after →
          positions t.lists s = (picks, after)) ∧
      ∀ out, (∃ words, (render source (Replay.ofList words)).1 = out) ↔
        ∃ choices, List.Forall₂ OptionList.Grants t.lists choices ∧
          substitute t.lists choices t.body = out := by
  intro t drawn
  refine ⟨?_, ?_, ?_⟩
  · intro σ _ s
    obtain ⟨words, hd, hg⟩ := draws_positions t.lists s
    have hp := hd.hasPosition hn
    exact ⟨_, words, _, rfl, hp, forall₂_grants_iff.mpr ⟨_, hp, rfl⟩, render_eq source s, hd, hg,
      hd.length⟩
  · intro picks hpicks
    obtain ⟨words, hd⟩ := Draws.exists_words hpicks hn
    exact ⟨words, hd, Replay.exists_gives words words 0, fun hg => hd.positions_eq hg⟩
  · intro out
    constructor
    · rintro ⟨words, rfl⟩
      obtain ⟨_, hd, _⟩ := draws_positions t.lists (Replay.ofList words)
      rw [render_eq]
      exact ⟨_, forall₂_grants_iff.mpr ⟨_, hd.hasPosition hn, rfl⟩, rfl⟩
    · rintro ⟨choices, hgrants, rfl⟩
      obtain ⟨picks, hpicks, rfl⟩ := forall₂_grants_iff.mp hgrants
      obtain ⟨words, hd⟩ := Draws.exists_words hpicks hn
      obtain ⟨after, hg⟩ := Replay.exists_gives words words 0
      refine ⟨words, ?_⟩
      rw [render_eq, Replay.ofList, hd.positions_eq hg]

theorem render_draws_second_option :
    let source : Text := "[a] [b]\na\nx|y\nb"
    let lists := (parse source).lists
    (∀ l ∈ lists, l.options.length < UInt32.size) ∧
      List.Forall₂ OptionList.HasPosition lists [some 1, none] ∧
      ∃ words after, positions lists (Replay.ofList words) = ([some 1, none], after) ∧
        (render source (Replay.ofList words)).1 = ("y " : String).toList := by
  intro source lists
  have hlists : lists = [⟨"a", ["x", "y"]⟩, ⟨"b", []⟩] := by decide
  have hn : ∀ l ∈ lists, l.options.length < UInt32.size := by
    rw [hlists]
    decide
  have hpicks : List.Forall₂ OptionList.HasPosition lists [some 1, none] := by
    rw [hlists]
    exact .cons (by decide : 1 < 2) (.cons rfl .nil)
  obtain ⟨hall, hreach, _⟩ := render_draws hn
  obtain ⟨words, _, ⟨after, hg⟩, hpositions⟩ := hreach _ hpicks
  obtain ⟨picks, _, _, hp, _, _, hr, _⟩ := hall (Replay.ofList words)
  cases (hpositions hg).symm.trans hp
  refine ⟨hn, hpicks, words, after, hpositions hg, ?_⟩
  rw [hr]
  rfl

end Template

end TemplateServer
