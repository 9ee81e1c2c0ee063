import TemplateServer.Proofs.Template.ListBlock
import TemplateServer.Proofs.Template.Reading
import TemplateServer.Proofs.Text.Trim
import TemplateServer.Template.Fill

namespace TemplateServer.Template

def withReturns (source : Text) : Text := Text.replaceAll ['\n'] ['\r', '\n'] source

lemma withReturns_cons (c : Char) (rest : Text) :
    withReturns (c :: rest) = (if c = '\n' then ['\r', '\n'] else [c]) ++ withReturns rest := by
  rw [withReturns, Text.replaceAll, Text.replaceFrom]
  by_cases h : c = '\n'
  · rw [if_pos (by simp [h]), if_pos h, Text.replaceFrom_eq]
    rfl
  · rw [if_neg (by simpa using Ne.symm h), if_neg h, Text.replaceFrom_eq]
    rfl

lemma withReturns_append (s t : Text) : withReturns (s ++ t) = withReturns s ++ withReturns t := by
  induction s with
  | nil => rfl
  | cons c s ih => rw [List.cons_append, withReturns_cons, withReturns_cons, ih, List.append_assoc]

lemma withReturns_of_not_mem {s : Text} (h : '\n' ∉ s) : withReturns s = s := by
  induction s with
  | nil => rfl
  | cons c s ih =>
    obtain ⟨hc, hs⟩ := not_or.mp (mt List.mem_cons.mpr h)
    rw [withReturns_cons, if_neg (Ne.symm hc), ih hs, List.singleton_append]

lemma withReturns_lineFeed {before : Text} (h : '\n' ∉ before) (after : Text) :
    withReturns (before ++ '\n' :: after) = before ++ ['\r'] ++ '\n' :: withReturns after := by
  rw [withReturns_append, withReturns_of_not_mem h, withReturns_cons, if_pos rfl,
    List.append_assoc]
  rfl

lemma lines_withReturns (source : Text) : lines (withReturns source) = lines source := by
  induction source using separator_induction '\n' with
  | last s h => rw [withReturns_of_not_mem h]
  | more before after hb ih =>
    have hr : '\n' ∉ before ++ ['\r'] := by simp [hb]
    rw [withReturns_lineFeed hb, lines_append, lines_append, lines_of_not_mem hr,
      lines_of_not_mem hb, ih, Text.trim_concat (by decide)]

lemma bodyOf_withReturns {source : Text} (h : (lines source).head? ≠ some []) :
    bodyOf (withReturns source) = bodyOf source := by
  obtain ⟨first, rest, hl, hb⟩ := isBody_bodyOf source
  have hfirst : first ≠ [] := by
    rintro rfl
    apply h
    rw [hl, List.head?_cons]
  rw [if_neg hfirst] at hb
  rw [hb]
  apply (isBody_bodyOf _).eq
  exact ⟨first, rest, (lines_withReturns source).trans hl, (if_neg hfirst).symm⟩

lemma getLast?_of_withReturns {source before after : Text}
    (h : withReturns source = before ++ '\n' :: after) : before.getLast? = some '\r' := by
  induction source using separator_induction '\n' generalizing before with
  | last s hs =>
    rw [withReturns_of_not_mem hs] at h
    exact absurd (h ▸ List.mem_append_cons_self) hs
  | more first rest hf ih =>
    rw [withReturns_lineFeed hf] at h
    rcases List.append_eq_append_iff.mp h with ⟨between, rfl, he⟩ | ⟨behind, he, hbehind⟩
    · cases between with
      | nil => simp
      | cons c between =>
        obtain ⟨_, he⟩ := List.cons.inj he
        rw [List.getLast?_append, List.getLast?_cons, ih he]
        rfl
    · cases behind with
      | nil => rw [← List.append_nil before, ← he, List.getLast?_concat]
      | cons c behind =>
        obtain ⟨rfl, _⟩ := List.cons.inj hbehind
        have hr : '\n' ∈ first ++ ['\r'] := he ▸ List.mem_append_cons_self
        exact absurd hr (by simp [hf])

lemma hasListBlock_withReturns (source : Text) : hasListBlock (withReturns source) = false := by
  apply Bool.eq_false_iff.mpr
  intro h
  obtain ⟨before, word, spaces, run, after, he, hblock⟩ := hasListBlock_iff.mp h
  have hsplit : withReturns source =
      before ++ ['\n'] ++ word ++ '\n' :: (spaces ++ run ++ '\n' :: after) := by simp [he]
  have hreturn := getLast?_of_withReturns hsplit
  rw [List.getLast?_append_of_ne_nil _ hblock.word_ne_nil] at hreturn
  exact absurd (hblock.word_chars '\r' (List.mem_of_getLast? hreturn)) (by decide)

/-- With a carriage return at the end of every line the lists are the same. So are the body, unless
the first line is blank, and all that is drawn and filled in. But no such source is valid: the
return stands between a word and the end of its line. -/
theorem render_withReturns (source : Text) :
    (parse (withReturns source)).lists = (parse source).lists ∧
      ((lines source).head? ≠ some [] →
        (parse (withReturns source)).body = (parse source).body ∧
          ∀ {σ : Type} [WordSource σ] (s : σ), render (withReturns source) s = render source s) ∧
      (Report.ofSource (withReturns source)).valid = false := by
  have hlists : (parse (withReturns source)).lists = (parse source).lists := by
    rw [parse, lines_withReturns]
    rfl
  refine ⟨hlists, ?_, ?_⟩
  · intro hfirst
    have hbody : (parse (withReturns source)).body = (parse source).body :=
      bodyOf_withReturns hfirst
    refine ⟨hbody, ?_⟩
    intro σ _ s
    rw [render, render, fill, fill, hlists, hbody]
  · simpa [Report.ofSource, Report.ofProbes] using hasListBlock_withReturns source

theorem render_withReturns_of_valid :
    let source : Text := "[a]|[b]\n\na\n x| \ny|z \nb\n\t1 |2\n"
    let s := Replay.ofList [4000000000, 0]
    (lines source).head? ≠ some [] ∧ (Report.ofSource source).valid = true ∧
      (Report.ofSource (withReturns source)).valid = false ∧
      (parse (withReturns source)).lists = [⟨"a", ["x", "", "y", "z"]⟩, ⟨"b", ["1", "2"]⟩] ∧
      render (withReturns source) s = render source s ∧
      (render source s).1 = ("z|1" : String).toList := by
  intro source s
  have hfirst : (lines source).head? ≠ some [] := by decide
  obtain ⟨hlists, hsame, hvalid⟩ := render_withReturns source
  exact ⟨hfirst, by decide, hvalid, hlists.trans (by decide), (hsame hfirst).2 s, by decide⟩

end TemplateServer.Template
