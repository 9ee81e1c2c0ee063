import Mathlib
import TemplateServer.Proofs.Text.Word
import TemplateServer.Template.Check

namespace TemplateServer

namespace Text

lemma isSpace_iff {c : Char} :
    isSpace c = true ↔ isBlank c = true ∧ c ≠ '\u0085' ∨ c = '\ufeff' := by
  simp [isSpace]

lemma endsLine_iff {c : Char} :
    endsLine c = true ↔ c = '\n' ∨ c = '\r' ∨ c = '\u2028' ∨ c = '\u2029' := by
  simp only [endsLine, Bool.or_eq_true, beq_iff_eq, or_assoc]

end Text

namespace Template

/-- A line feed, a word, a line feed, spaces, a run without line ends, a line feed. The spaces may
be line ends themselves. -/
structure IsListBlock (word spaces run : Text) : Prop where
  word_ne_nil : word ≠ []
  word_chars : ∀ c ∈ word, 'A' ≤ c ∧ c ≤ 'Z' ∨ 'a' ≤ c ∧ c ≤ 'z' ∨ '0' ≤ c ∧ c ≤ '9' ∨ c = '_'
  spaces_ne_nil : spaces ≠ []
  spaces_chars : ∀ c ∈ spaces, Text.isBlank c = true ∧ c ≠ '\u0085' ∨ c = '\ufeff'
  run_chars : ∀ c ∈ run, c ≠ '\n' ∧ c ≠ '\r' ∧ c ≠ '\u2028' ∧ c ≠ '\u2029'

lemma lineFeed_within_or_behind {run : Text} (h : ∀ c ∈ run, Text.endsLine c = false)
    (after : Text) :
    '\n' ∈ (run ++ '\n' :: after).takeWhile Text.isSpace ∨
      ((run ++ '\n' :: after).dropWhile Text.isSpace).find? Text.endsLine = some '\n' := by
  -- the spaces before may run on into the run, and then perhaps over the line feed behind it
  induction run with
  | nil =>
    have hn : Text.isSpace '\n' = true := by decide
    rw [List.nil_append, List.takeWhile_cons_of_pos hn]
    exact Or.inl List.mem_cons_self
  | cons c run ih =>
    obtain ⟨_, hrun⟩ := List.forall_mem_cons.mp h
    by_cases hc : Text.isSpace c = true
    · rw [List.cons_append, List.takeWhile_cons_of_pos hc, List.dropWhile_cons_of_pos hc]
      exact (ih hrun).imp_left (List.mem_cons_of_mem c)
    · rw [List.cons_append, List.dropWhile_cons_of_neg hc, ← List.cons_append]
      apply Or.inr
      apply List.find?_eq_some_iff_append.mpr
      exact ⟨by decide, c :: run, after, rfl, by simpa using h⟩

lemma continues_iff {s : Text} : continues s = true ↔ ∃ spaces run after,
    s = spaces ++ run ++ '\n' :: after ∧ spaces ≠ [] ∧ (∀ c ∈ spaces, Text.isSpace c = true) ∧
      ∀ c ∈ run, Text.endsLine c = false := by
  constructor
  · intro h
    cases s with
    | nil => cases h
    | cons c rest =>
      simp only [continues, Bool.and_eq_true, Bool.or_eq_true, List.contains_eq_mem,
        decide_eq_true_eq, beq_iff_eq] at h
      have hspaces : ∀ d ∈ c :: rest.takeWhile Text.isSpace, Text.isSpace d = true :=
        List.forall_mem_cons.mpr ⟨h.1, fun d hd => List.mem_takeWhile_imp hd⟩
      rcases h.2 with hn | hn
      · obtain ⟨before, behind, he⟩ := List.append_of_mem hn
        have hrest : before ++ '\n' :: (behind ++ rest.dropWhile Text.isSpace) = rest := by
          rw [← List.cons_append, ← List.append_assoc, ← he, List.takeWhile_append_dropWhile]
        rw [he] at hspaces
        refine ⟨c :: before, [], behind ++ rest.dropWhile Text.isSpace, ?_, by simp, ?_, by simp⟩
        · rw [List.append_nil, List.cons_append, hrest]
        · rw [← List.cons_append, List.forall_mem_append] at hspaces
          exact hspaces.1
      · obtain ⟨_, run, after, he, hrun⟩ := List.find?_eq_some_iff_append.mp hn
        refine ⟨c :: rest.takeWhile Text.isSpace, run, after, ?_, by simp, hspaces, ?_⟩
        · rw [List.append_assoc, ← he, List.cons_append, List.takeWhile_append_dropWhile]
        · simpa using hrun
  · rintro ⟨spaces, run, after, rfl, hne, hspaces, hrun⟩
    cases spaces with
    | nil => exact absurd rfl hne
    | cons c spaces =>
      obtain ⟨hc, hspaces⟩ := List.forall_mem_cons.mp hspaces
      simp only [List.cons_append, List.append_assoc, continues, hc, Bool.true_and, Bool.or_eq_true,
        List.contains_eq_mem, decide_eq_true_eq, beq_iff_eq, List.takeWhile_append_of_pos hspaces,
        List.dropWhile_append_of_pos hspaces]
      exact (lineFeed_within_or_behind hrun after).imp_left (List.mem_append_right spaces)

lemma startsBlock_iff {s : Text} : startsBlock s = true ↔ ∃ word rest,
    s = word ++ '\n' :: rest ∧ word ≠ [] ∧ (∀ c ∈ word, Text.isWord c = true) ∧
      continues rest = true := by
  constructor
  · intro h
    rw [startsBlock, Bool.and_eq_true, Bool.not_eq_true', List.isEmpty_eq_false_iff] at h
    obtain ⟨hne, hc⟩ := h
    split at hc
    · next rest hrest =>
      refine ⟨s.takeWhile Text.isWord, rest, ?_, hne, fun c hc => List.mem_takeWhile_imp hc, hc⟩
      rw [← hrest, List.takeWhile_append_dropWhile]
    · cases hc
  · rintro ⟨word, rest, rfl, hne, hword, hc⟩
    have hn : ¬ Text.isWord '\n' = true := by decide
    rw [startsBlock, List.takeWhile_append_of_pos hword, List.dropWhile_append_of_pos hword,
      List.takeWhile_cons_of_neg hn, List.dropWhile_cons_of_neg hn, List.append_nil]
    simp [hne, hc]

lemma hasListBlock_iff_startsBlock {s : Text} : hasListBlock s = true ↔ ∃ before rest,
    s = before ++ '\n' :: rest ∧ startsBlock rest = true := by
  induction s with
  | nil => simp [hasListBlock]
  | cons c rest ih =>
    rw [hasListBlock, Bool.or_eq_true, Bool.and_eq_true, beq_iff_eq, ih]
    constructor
    · rintro (⟨rfl, h⟩ | ⟨before, after, rfl, h⟩)
      · exact ⟨[], rest, rfl, h⟩
      · exact ⟨c :: before, after, rfl, h⟩
    · rintro ⟨before, after, he, h⟩
      cases before with
      | nil =>
        obtain ⟨rfl, rfl⟩ := List.cons.inj he
        exact Or.inl ⟨rfl, h⟩
      | cons d before =>
        obtain ⟨rfl, rfl⟩ := List.cons.inj he
        exact Or.inr ⟨before, after, rfl, h⟩

lemma hasListBlock_iff {s : Text} : hasListBlock s = true ↔ ∃ before word spaces run after,
    s = before ++ '\n' :: word ++ '\n' :: spaces ++ run ++ '\n' :: after ∧
      IsListBlock word spaces run := by
  rw [hasListBlock_iff_startsBlock]
  constructor
  · rintro ⟨before, _, rfl, h⟩
    obtain ⟨word, _, rfl, hw, hword, h⟩ := startsBlock_iff.mp h
    obtain ⟨spaces, run, after, rfl, hs, hspaces, hrun⟩ := continues_iff.mp h
    refine ⟨before, word, spaces, run, after, by simp, hw, ?_, hs, ?_, ?_⟩
    · exact fun c hc => Text.isWord_iff.mp (hword c hc)
    · exact fun c hc => Text.isSpace_iff.mp (hspaces c hc)
    · intro c hc
      simpa [Text.endsLine_iff] using mt Text.endsLine_iff.mpr (Bool.eq_false_iff.mp (hrun c hc))
  · rintro ⟨before, word, spaces, run, after, rfl, h⟩
    refine ⟨before, word ++ '\n' :: (spaces ++ run ++ '\n' :: after), by simp, ?_⟩
    apply startsBlock_iff.mpr
    refine ⟨word, _, rfl, h.word_ne_nil, fun c hc => Text.isWord_iff.mpr (h.word_chars c hc), ?_⟩
    apply continues_iff.mpr
    refine ⟨spaces, run, after, rfl, h.spaces_ne_nil, ?_, ?_⟩
    · exact fun c hc => Text.isSpace_iff.mpr (h.spaces_chars c hc)
    · intro c hc
      obtain ⟨h1, h2, h3, h4⟩ := h.run_chars c hc
      simp [Text.endsLine, h1, h2, h3, h4]

end Template

lemma Report.validMessage_ne_invalidMessage : validMessage ≠ invalidMessage := by
  intro h
  have hl : validMessage.length = invalidMessage.length := by rw [h]
  exact absurd hl (by decide)

theorem ofSource_valid_iff (source : Text) :
    let report := Report.ofSource source
    (report.valid = true ↔ ∃ before word spaces run after,
        source = before ++ '\n' :: word ++ '\n' :: spaces ++ run ++ '\n' :: after ∧
          Template.IsListBlock word spaces run) ∧
      report.valid = Template.hasListBlock source ∧
      (∀ placeholder, Report.ofProbes placeholder (Template.hasListBlock source) = report) ∧
      (report.message = Report.validMessage ↔ report.valid = true) ∧
      (report.message = Report.invalidMessage ↔ report.valid = false) := by
  intro report
  have hprobes : ∀ found block, Report.ofProbes found block =
      ⟨block, if block then Report.validMessage else Report.invalidMessage⟩ := by
    intro found block
    cases found <;> simp [Report.ofProbes]
  have hreport : report = ⟨Template.hasListBlock source,
      if Template.hasListBlock source then Report.validMessage else Report.invalidMessage⟩ :=
    hprobes _ _
  have hne := Report.validMessage_ne_invalidMessage
  rw [hreport, ← Template.hasListBlock_iff]
  refine ⟨Iff.rfl, rfl, fun found => hprobes found _, ?_, ?_⟩
  · cases Template.hasListBlock source
    · simpa using hne.symm
    · simp
  · cases Template.hasListBlock source
    · simp
    · simpa using hne

end TemplateServer
