import TemplateServer.Proofs.Template.Reading
import TemplateServer.Proofs.Text.Trim

/-! Which lists a source can declare, and a source for each of them. -/

namespace TemplateServer

def FillsLine (s : Text) : Prop := Text.trim s = s ∧ '\n' ∉ s

instance : DecidablePred FillsLine := fun s => inferInstanceAs (Decidable (Text.trim s = s ∧ '\n' ∉ s))

namespace OptionList

open Template

structure IsProper (l : OptionList) : Prop where
  name_fillsLine : FillsLine l.name
  name_declares : IsDeclaration l.name
  options_fillLine : ∀ o ∈ l.options, FillsLine o
  options_plain : ∀ o ∈ l.options, '|' ∉ o ∧ '[' ∉ o
  options_open : l.options = [] ∨
    2 ≤ l.options.length ∧ ∀ o ∈ l.options.head?, o.head? ≠ some '<'

def lines (l : OptionList) : List Text :=
  l.name :: if l.options = [] then [] else [['|'].intercalate l.options]

end OptionList

namespace Template

structure IsProper (lists : List OptionList) : Prop where
  names_nodup : (lists.map OptionList.name).Nodup
  proper : ∀ l ∈ lists, l.IsProper

structure IsBodyLine (body : Text) : Prop where
  ne_nil : body ≠ []
  fillsLine : FillsLine body
  not_name : body.head? = some '<' ∨ '[' ∈ body ∨ '|' ∈ body

def text (t : Template) : Text := ['\n'].intercalate (t.body :: t.lists.flatMap OptionList.lines)

lemma fillsLine_of_mem_lines {source line : Text} (h : line ∈ lines source) : FillsLine line := by
  obtain ⟨piece, hp, rfl⟩ := List.mem_map.mp h
  exact ⟨Text.trim_trim piece, fun hm => (Text.of_mem_pieces hp).1 (Text.trim_subset piece hm)⟩

lemma of_mem_optionsOf {line o : Text} (hf : FillsLine line) (hl : IsOptionLine line)
    (ho : o ∈ optionsOf line) : FillsLine o ∧ '|' ∉ o ∧ '[' ∉ o := by
  obtain ⟨piece, hp, rfl⟩ := List.mem_map.mp ho
  obtain ⟨hbar, hsub⟩ := Text.of_mem_pieces hp
  have ht := Text.trim_subset piece
  exact ⟨⟨Text.trim_trim piece, fun hm => hf.2 (hsub (ht hm))⟩, fun hm => hbar (ht hm),
    fun hm => hl.no_bracket (hsub (ht hm))⟩

lemma optionsOf_open {line : Text} (hf : FillsLine line) (hl : IsOptionLine line) :
    2 ≤ (optionsOf line).length ∧ ∀ o ∈ (optionsOf line).head?, o.head? ≠ some '<' := by
  rcases Text.pieces_cases '|' line with ⟨hn, _⟩ | ⟨before, after, _, rfl, hp⟩
  · exact absurd hl.has_bar hn
  · rw [optionsOf, hp, List.map_cons]
    constructor
    · have h := List.length_pos_iff.mpr (Text.pieces_ne_nil '|' after)
      rw [List.length_cons, List.length_map]
      omega
    · rintro o ⟨⟩
      cases before with
      | nil => exact fun h => nomatch h
      | cons c rest =>
        have hc : Text.isBlank c = false := (Text.trim_eq_self_iff.mp hf.1).1 c rfl
        rw [Text.head?_trim rfl hc]
        exact hl.not_markup

lemma optionsIn_open {block : List Text} (hf : ∀ line ∈ block, FillsLine line) :
    optionsIn block = [] ∨
      2 ≤ (optionsIn block).length ∧ ∀ o ∈ (optionsIn block).head?, o.head? ≠ some '<' := by
  rw [optionsIn_eq]
  cases hb : block.filter (IsOptionLine ·) with
  | nil => exact Or.inl rfl
  | cons line rest =>
    have hm : line ∈ block.filter (IsOptionLine ·) := hb ▸ List.mem_cons_self
    obtain ⟨hm, hl⟩ := List.mem_filter.mp hm
    obtain ⟨hlength, hhead⟩ := optionsOf_open (hf line hm) (of_decide_eq_true hl)
    have hne : optionsOf line ≠ [] := List.ne_nil_of_length_pos (by omega)
    refine Or.inr ⟨?_, ?_⟩
    · rw [List.flatMap_cons, List.length_append]
      exact Nat.le_add_right_of_le hlength
    · rw [List.flatMap_cons, List.head?_append_of_ne_nil _ hne]
      exact hhead

lemma IsReading.isProper {ls : List Text} {lists : List OptionList} (h : IsReading ls lists)
    (hf : ∀ line ∈ ls, FillsLine line) : IsProper lists := by
  refine ⟨h.names_nodup, ?_⟩
  intro l hl
  obtain ⟨hm, hd⟩ := h.isDeclaration hl
  obtain ⟨block, after, hb, ho⟩ := h.options l hl
  have hblock : ∀ line ∈ block, FillsLine line := by
    obtain ⟨before, rfl⟩ := hb.split
    exact fun line hline => hf line (by simp [hline])
  have hoption : ∀ o ∈ l.options, FillsLine o ∧ '|' ∉ o ∧ '[' ∉ o := by
    intro o hmem
    rw [ho, optionsIn_eq, List.mem_flatMap] at hmem
    obtain ⟨line, hline, hmem⟩ := hmem
    obtain ⟨hline, hol⟩ := List.mem_filter.mp hline
    exact of_mem_optionsOf (hblock line hline) (of_decide_eq_true hol) hmem
  exact ⟨hf _ hm, hd, fun o hmem => (hoption o hmem).1, fun o hmem => (hoption o hmem).2,
    ho ▸ optionsIn_open hblock⟩

end Template

namespace OptionList.IsProper

open Template

variable {l : OptionList}

lemma isOptionLine (h : l.IsProper) (hne : l.options ≠ []) :
    IsOptionLine (['|'].intercalate l.options) := by
  obtain ⟨hlength, hhead⟩ := h.options_open.resolve_left hne
  have hb : '[' ∉ ['|'].intercalate l.options :=
    Text.not_mem_intercalate (by decide) (fun o ho => (h.options_plain o ho).2)
  rcases ho : l.options with _ | ⟨o, _ | ⟨p, rest⟩⟩
  · exact absurd ho hne
  · rw [ho] at hlength
    exact absurd hlength (Nat.not_succ_le_self 1)
  · rw [ho] at hhead hb
    rw [List.intercalate_cons_cons] at hb ⊢
    refine ⟨by simp, ?_, hb, by simp⟩
    cases o with
    | nil => simp
    | cons c o => exact hhead (c :: o) rfl

lemma optionsOf_intercalate (h : l.IsProper) (hne : l.options ≠ []) :
    optionsOf (['|'].intercalate l.options) = l.options := by
  rw [optionsOf, Text.pieces_intercalate hne (fun o ho => (h.options_plain o ho).1)]
  exact Text.map_trim_eq_self (fun o ho => (h.options_fillLine o ho).1)

lemma fillsLine_of_mem_lines (h : l.IsProper) {line : Text} (hl : line ∈ l.lines) :
    FillsLine line := by
  rcases List.mem_cons.mp hl with rfl | hl
  · exact h.name_fillsLine
  · split at hl
    · cases hl
    · rw [List.mem_singleton.mp hl]
      exact ⟨Text.trim_intercalate (by decide) (fun o ho => (h.options_fillLine o ho).1),
        Text.not_mem_intercalate (by decide) (fun o ho => (h.options_fillLine o ho).2)⟩

end OptionList.IsProper

namespace Template

lemma lines_text {t : Template} (hb : FillsLine t.body) (hl : ∀ l ∈ t.lists, l.IsProper) :
    lines t.text = t.body :: t.lists.flatMap OptionList.lines := by
  have hf : ∀ line ∈ t.body :: t.lists.flatMap OptionList.lines, FillsLine line := by
    intro line hm
    rcases List.mem_cons.mp hm with rfl | hm
    · exact hb
    · obtain ⟨l, hmem, hm⟩ := List.mem_flatMap.mp hm
      exact (hl l hmem).fillsLine_of_mem_lines hm
  rw [lines, text, Text.pieces_intercalate (by simp) (fun line hm => (hf line hm).2)]
  exact Text.map_trim_eq_self (fun line hm => (hf line hm).1)

namespace Scan

lemma line_of_new (done : List OptionList) (active : Option Nat) {name : Text}
    (hn : IsDeclaration name) (hnew : ∀ d ∈ done, d.name ≠ name) :
    line ⟨done, active⟩ name = ⟨done ++ [⟨name, []⟩], some done.length⟩ := by
  have hfind : done.findIdx? (·.name = name) = none := by
    rw [List.findIdx?_eq_none_iff]
    exact fun d hd => decide_eq_false (hnew d hd)
  rw [line, if_pos (declares_iff.mpr hn), declare, hfind]

lemma foldl_pair (done : List OptionList) (active : Option Nat) {name options : Text}
    (hn : IsDeclaration name) (ho : IsOptionLine options) (hnew : ∀ d ∈ done, d.name ≠ name) :
    [name, options].foldl line ⟨done, active⟩ =
      ⟨done ++ [⟨name, optionsOf options⟩], some done.length⟩ := by
  have hoffers := offers_iff.mpr ho
  have hd : declares options ≠ true := Bool.eq_false_iff.mp (declares_eq_false_of_offers hoffers)
  rw [List.foldl_cons, line_of_new done active hn hnew, List.foldl_cons, List.foldl_nil, line,
    if_neg hd, if_pos hoffers, offer, Scan.mk.injEq]
  exact ⟨List.modifyTailIdx_add _ 0 done [⟨name, []⟩], rfl⟩

lemma foldl_lines (done : List OptionList) (active : Option Nat) {l : OptionList}
    (h : l.IsProper) (hn : ∀ d ∈ done, d.name ≠ l.name) :
    l.lines.foldl line ⟨done, active⟩ = ⟨done ++ [l], some done.length⟩ := by
  rw [OptionList.lines]
  split
  · next ho =>
    rw [List.foldl_cons, line_of_new done active h.name_declares hn, List.foldl_nil, ← ho]
  · next ho =>
    rw [foldl_pair done active h.name_declares (h.isOptionLine ho) hn, h.optionsOf_intercalate ho]

lemma foldl_flatMap_lines {lists : List OptionList} (done : List OptionList) (active : Option Nat)
    (h : IsProper (done ++ lists)) :
    ((lists.flatMap OptionList.lines).foldl line ⟨done, active⟩).lists = done ++ lists := by
  induction lists generalizing done active with
  | nil => simp
  | cons l rest ih =>
    have hn : ∀ d ∈ done, d.name ≠ l.name := by
      have hd := h.names_nodup
      rw [List.map_append, List.map_cons] at hd
      intro d hmem he
      exact List.disjoint_of_nodup_append hd (List.mem_map_of_mem hmem) (by simp [he])
    have hl : l.IsProper := h.proper l (by simp)
    rw [List.append_cons] at h ⊢
    rw [List.flatMap_cons, List.foldl_append, foldl_lines done active hl hn]
    exact ih _ _ h

lemma line_of_isBodyLine {body : Text} (h : IsBodyLine body) : start.line body = start := by
  have hd : ¬ IsDeclaration body := by
    intro hd
    rcases h.not_name with hm | hb | hb
    · exact hd.not_markup hm
    · exact hd.no_bracket hb
    · exact hd.no_bar hb
  rw [line, if_neg (mt declares_iff.mp hd)]
  split <;> rfl

end Scan

theorem lists_parse_iff (lists : List OptionList) :
    ((∃ source, (parse source).lists = lists) ↔ IsProper lists) ∧
      ∀ body, IsBodyLine body → IsProper lists → parse (text ⟨lists, body⟩) = ⟨lists, body⟩ := by
  have hparse : ∀ body, IsBodyLine body → IsProper lists →
      parse (text ⟨lists, body⟩) = ⟨lists, body⟩ := by
    intro body hb hl
    have hlines : lines (text ⟨lists, body⟩) = body :: lists.flatMap OptionList.lines :=
      lines_text hb.fillsLine hl.proper
    rw [parse, Template.mk.injEq]
    constructor
    · rw [hlines, List.foldl_cons, Scan.line_of_isBodyLine hb]
      exact Scan.foldl_flatMap_lines [] none hl
    · exact (isBody_bodyOf _).eq ⟨body, _, hlines, (if_neg hb.ne_nil).symm⟩
  refine ⟨⟨?_, ?_⟩, hparse⟩
  · rintro ⟨source, rfl⟩
    exact (isReading_parse source).isProper (fun line => fillsLine_of_mem_lines)
  · intro hl
    have hbody : IsBodyLine "<" := ⟨by decide, by decide, by decide⟩
    exact ⟨text ⟨lists, "<"⟩, by rw [hparse "<" hbody hl]⟩

theorem lists_parse_markup_option :
    let lists : List OptionList := [⟨"a b", ["", "<i>x"]⟩, ⟨"c", []⟩]
    IsBodyLine "[a b]|[c]" ∧ IsProper lists ∧
      text ⟨lists, "[a b]|[c]"⟩ = ("[a b]|[c]\na b\n|<i>x\nc" : String).toList ∧
      parse (text ⟨lists, "[a b]|[c]"⟩) = ⟨lists, "[a b]|[c]"⟩ := by
  intro lists
  have hb : IsBodyLine "[a b]|[c]" := ⟨by decide, by decide, by decide⟩
  have hl : IsProper lists := by
    refine ⟨by decide, ?_⟩
    intro l hmem
    rcases List.mem_pair.mp hmem with rfl | rfl
    · exact ⟨by decide, by decide, by decide, by decide, by decide⟩
    · exact ⟨by decide, by decide, by decide, by decide, by decide⟩
  exact ⟨hb, hl, by decide, (lists_parse_iff lists).2 _ hb hl⟩

end Template

end TemplateServer
