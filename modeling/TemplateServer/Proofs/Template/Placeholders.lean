import TemplateServer.Proofs.Template.Expansion
import TemplateServer.Proofs.Template.Reading
import TemplateServer.Proofs.Text.Word
import TemplateServer.Template.Check

/-! Where no bracketed word stands in a source, no replacement finds a place in its body. -/

namespace TemplateServer.Template

lemma closesWord_iff {s : Text} : closesWord s = true ↔
    ∃ word rest, s = word ++ ']' :: rest ∧ Text.IsWord word := by
  rw [closesWord, Bool.and_eq_true, Bool.not_eq_true', List.isEmpty_eq_false_iff, beq_iff_eq]
  constructor
  · rintro ⟨hne, hclose⟩
    have hrest := List.eq_cons_of_mem_head? hclose
    refine ⟨s.takeWhile Text.isWord, (s.dropWhile Text.isWord).tail, ?_, ?_⟩
    · rw [← hrest, List.takeWhile_append_dropWhile]
    · exact Text.isWord_text_iff.mpr ⟨hne, fun c hc => List.mem_takeWhile_imp hc⟩
  · rintro ⟨word, rest, rfl, hword⟩
    obtain ⟨hne, hchars⟩ := Text.isWord_text_iff.mp hword
    have hclose : ¬ Text.isWord ']' = true := by decide
    rw [List.takeWhile_append_of_pos hchars, List.dropWhile_append_of_pos hchars,
      List.takeWhile_cons_of_neg hclose, List.dropWhile_cons_of_neg hclose, List.append_nil]
    exact ⟨hne, rfl⟩

lemma hasPlaceholder_iff_occurs {s : Text} : hasPlaceholder s = true ↔
    ∃ word, Text.IsWord word ∧ placeholder word <:+: s := by
  induction s with
  | nil => simp [hasPlaceholder, placeholder]
  | cons c rest ih =>
    rw [hasPlaceholder, Bool.or_eq_true, Bool.and_eq_true, beq_iff_eq, closesWord_iff, ih]
    constructor
    · rintro (⟨rfl, word, after, rfl, hword⟩ | ⟨word, hword, hi⟩)
      · refine ⟨word, hword, List.IsPrefix.isInfix ⟨after, placeholder_append word after⟩⟩
      · exact ⟨word, hword, List.infix_cons hi⟩
    · rintro ⟨word, hword, hi⟩
      rcases List.infix_cons_iff.mp hi with ⟨after, he⟩ | hi
      · rw [placeholder_append] at he
        obtain ⟨rfl, rfl⟩ := List.cons.inj he
        exact Or.inl ⟨rfl, word, after, rfl, hword⟩
      · exact Or.inr ⟨word, hword, hi⟩

lemma expand_of_absent {values : List (Text × Text)} {s : Text}
    (h : ∀ v ∈ values, ¬ placeholder v.1 <:+: s) : expand values s = s := by
  induction s with
  | nil => exact expand_of_not_mem values List.not_mem_nil
  | cons c rest ih =>
    have hf : values.find? (fun v => (placeholder v.1).isPrefixOf (c :: rest)) = none := by
      apply List.find?_eq_none.mpr
      intro v hv hp
      exact h v hv (List.isPrefixOf_iff_prefix.mp hp).isInfix
    rw [expand_cons_of_find?_none values hf, ih]
    intro v hv hi
    exact h v hv (List.infix_cons hi)

lemma substitute_of_absent {lists : List OptionList} {s : Text}
    (h : ∀ l ∈ lists, ¬ placeholder l.name <:+: s) (choices : List Text) :
    substitute lists choices s = s := by
  induction lists generalizing choices with
  | nil => rfl
  | cons l lists ih =>
    obtain ⟨hl, hlists⟩ := List.forall_mem_cons.mp h
    cases choices with
    | nil => rfl
    | cons choice choices =>
      have hs : expand [(l.name, choice)] s = s := by
        apply expand_of_absent
        intro v hv
        rw [List.mem_singleton.mp hv]
        exact hl
      rw [substitute, replaceAll_eq_expand, hs]
      exact ih hlists choices

lemma isInfix_bodyOf (source : Text) : bodyOf source <:+: source := by
  obtain ⟨first, rest, hlines, hb⟩ := isBody_bodyOf source
  rw [hb]
  split
  · exact List.infix_refl source
  · rw [lines] at hlines
    rcases Text.pieces_cases '\n' source with ⟨_, hp⟩ | ⟨before, after, _, rfl, hp⟩
    · rw [hp] at hlines
      obtain ⟨rfl, _⟩ := List.cons.inj hlines
      exact Text.isInfix_trim source
    · rw [hp] at hlines
      obtain ⟨rfl, _⟩ := List.cons.inj hlines
      exact (Text.isInfix_trim before).trans (List.prefix_append before _).isInfix

theorem hasPlaceholder_iff (source : Text) :
    (hasPlaceholder source = true ↔
        ∃ word, Text.IsWord word ∧ '[' :: word ++ [']'] <:+: source) ∧
      ((∀ l ∈ (parse source).lists, Text.IsWord l.name) → hasPlaceholder source = false →
        ∀ {σ : Type} [WordSource σ] (s : σ), (render source s).1 = (parse source).body) := by
  refine ⟨hasPlaceholder_iff_occurs, ?_⟩
  intro hnames hnone σ _ s
  apply substitute_of_absent
  intro l hl hi
  have hfound : hasPlaceholder source = true :=
    hasPlaceholder_iff_occurs.mpr ⟨l.name, hnames l hl, hi.trans (isInfix_bodyOf source)⟩
  rw [hnone] at hfound
  cases hfound

theorem hasPlaceholder_iff_open_brackets :
    let source : Text := " \n[a b] [a\na\nx|y]\n[]"
    let s := Replay.ofList [3000000000]
    (∀ l ∈ (parse source).lists, Text.IsWord l.name) ∧ hasPlaceholder source = false ∧
      (parse source).lists = [⟨"a", ["x", "y]"]⟩] ∧ (render source s).1 = source := by
  intro source s
  have hlists : (parse source).lists = [⟨"a", ["x", "y]"]⟩] := by decide
  have hnames : ∀ l ∈ (parse source).lists, Text.IsWord l.name := by
    rw [hlists]
    intro l hl
    rw [List.mem_singleton.mp hl]
    exact ⟨by decide, by simp⟩
  have hnone : hasPlaceholder source = false := by decide
  exact ⟨hnames, hnone, hlists, (hasPlaceholder_iff source).2 hnames hnone s⟩

end TemplateServer.Template
