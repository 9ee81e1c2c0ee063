import TemplateServer.Proofs.Template.Canonical
import TemplateServer.Proofs.Template.Expansion

/-! A new list at the end of a source leaves the draws of the others as they were. -/

namespace TemplateServer.Template

structure IsNewList (source nameLine optionLine : Text) : Prop where
  name_declares : IsDeclaration nameLine.trim
  name_new : ∀ l ∈ (parse source).lists, l.name ≠ nameLine.trim
  name_no_lineFeed : '\n' ∉ nameLine
  options_has_bar : '|' ∈ optionLine
  options_no_bracket : '[' ∉ optionLine
  options_not_markup : optionLine.trim.head? ≠ some '<'
  options_no_lineFeed : '\n' ∉ optionLine

lemma IsNewList.isOptionLine {source nameLine optionLine : Text}
    (h : IsNewList source nameLine optionLine) : IsOptionLine optionLine.trim := by
  have hbar : '|' ∈ optionLine.trim := Text.mem_trim h.options_has_bar (by decide)
  refine ⟨List.ne_nil_of_mem hbar, h.options_not_markup, ?_, hbar⟩
  exact fun hm => h.options_no_bracket (Text.trim_subset optionLine hm)

lemma bodyOf_append {source : Text} (h : (lines source).head? ≠ some []) (rest : Text) :
    bodyOf (source ++ '\n' :: rest) = bodyOf source := by
  obtain ⟨first, below, hl, hb⟩ := isBody_bodyOf source
  have hfirst : first ≠ [] := by
    rintro rfl
    apply h
    rw [hl, List.head?_cons]
  rw [if_neg hfirst] at hb
  rw [hb]
  apply (isBody_bodyOf _).eq
  refine ⟨first, below ++ lines rest, ?_, (if_neg hfirst).symm⟩
  rw [lines_append, hl, List.cons_append]

lemma parse_append {source nameLine optionLine : Text} (hfirst : (lines source).head? ≠ some [])
    (h : IsNewList source nameLine optionLine) :
    parse (source ++ '\n' :: (nameLine ++ '\n' :: optionLine)) =
      ⟨(parse source).lists ++ [⟨nameLine.trim, optionsOf optionLine.trim⟩],
        (parse source).body⟩ := by
  have hlines : lines (source ++ '\n' :: (nameLine ++ '\n' :: optionLine)) =
      lines source ++ [nameLine.trim, optionLine.trim] := by
    rw [lines_append, lines_append, lines_of_not_mem h.name_no_lineFeed,
      lines_of_not_mem h.options_no_lineFeed, List.singleton_append]
  rw [parse, hlines, List.foldl_append, bodyOf_append hfirst, Template.mk.injEq]
  -- whichever list is active at the end of the source, the new one takes its place
  exact ⟨congrArg Scan.lists (Scan.foldl_pair _ _ h.name_declares h.isOptionLine h.name_new), rfl⟩

lemma choices_concat {σ : Type} [WordSource σ] (ls : List OptionList) (l : OptionList) (s : σ) :
    choices (ls ++ [l]) s =
      ((choices ls s).1 ++ [(WordSource.choose l.options (choices ls s).2).1],
        (WordSource.choose l.options (choices ls s).2).2) := by
  induction ls generalizing s with
  | nil => rfl
  | cons m ls ih => simp only [List.cons_append, choices, ih]

lemma substitute_concat {ls : List OptionList} {drawn : List Text} (h : drawn.length = ls.length)
    (l : OptionList) (choice out : Text) :
    substitute (ls ++ [l]) (drawn ++ [choice]) out =
      Text.replaceAll (placeholder l.name) choice (substitute ls drawn out) := by
  induction ls generalizing drawn out with
  | nil =>
    obtain rfl := List.length_eq_zero_iff.mp h
    rfl
  | cons m ls ih =>
    cases drawn with
    | nil => cases h
    | cons first drawn => exact ih (Nat.succ.inj h) _

theorem render_append {source nameLine optionLine : Text}
    (hfirst : (lines source).head? ≠ some []) (h : IsNewList source nameLine optionLine) :
    let longer := source ++ '\n' :: (nameLine ++ '\n' :: optionLine)
    let added : OptionList :=
      ⟨nameLine.trim, (Text.pieces '|' optionLine.trim).map Text.trim⟩
    parse longer = ⟨(parse source).lists ++ [added], (parse source).body⟩ ∧
      ∀ {σ : Type} [WordSource σ] (s : σ),
        let former := render source s
        let draw := WordSource.choose added.options former.2
        (choices (parse longer).lists s).1 = (choices (parse source).lists s).1 ++ [draw.1] ∧
          render longer s = (expand [(added.name, draw.1)] former.1, draw.2) := by
  intro longer added
  have hparse : parse longer = ⟨(parse source).lists ++ [added], (parse source).body⟩ :=
    parse_append hfirst h
  refine ⟨hparse, ?_⟩
  intro σ _ s former draw
  have hchoices : choices (parse longer).lists s =
      ((choices (parse source).lists s).1 ++ [draw.1], draw.2) := by
    rw [hparse]
    exact choices_concat _ added s
  refine ⟨congrArg Prod.fst hchoices, ?_⟩
  rw [render, fill, hchoices, hparse, Prod.mk.injEq]
  refine ⟨?_, rfl⟩
  rw [← replaceAll_eq_expand]
  exact substitute_concat (length_choices _ s) added draw.1 _

theorem render_append_behind_markup :
    let source : Text := "[a][b]\na\nx|y\n<p>\n"
    let nameLine : Text := " b "
    let optionLine : Text := "\t1 |<2"
    let s := Replay.ofList [0, 3000000000]
    (lines source).head? ≠ some [] ∧ IsNewList source nameLine optionLine ∧
      (render (source ++ '\n' :: (nameLine ++ '\n' :: optionLine)) s).1 =
        expand [("b", "<2")] (render source s).1 ∧
      (render source s).1 = ("x[b]" : String).toList := by
  intro source nameLine optionLine s
  have hfirst : (lines source).head? ≠ some [] := by decide
  have hnew : IsNewList source nameLine optionLine :=
    ⟨by decide, by decide, by decide, by decide, by decide, by decide, by decide⟩
  let added : OptionList := ⟨"b", ["1", "<2"]⟩
  have hadded :
      ⟨nameLine.trim, (Text.pieces '|' optionLine.trim).map Text.trim⟩ = added := by decide
  have hdraw :
      (WordSource.choose added.options (render source s).2).1 = ("<2" : String).toList := by decide
  obtain ⟨_, hrender⟩ := render_append hfirst hnew
  obtain ⟨_, hout⟩ := hrender s
  refine ⟨hfirst, hnew, ?_, by decide⟩
  rw [hout, hadded, hdraw]

end TemplateServer.Template
