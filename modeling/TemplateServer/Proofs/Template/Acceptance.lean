import TemplateServer.Proofs.Template.ListBlock
import TemplateServer.Proofs.Template.Reading

/-! A source that passes the check declares a list. -/

namespace TemplateServer.Template

lemma isDeclaration_of_isWord {word : Text} (h : Text.IsWord word) : IsDeclaration word := by
  refine ⟨h.ne_nil, ?_, h.not_mem (by decide), h.not_mem (by decide)⟩
  intro hm
  exact h.not_mem (by decide) (List.mem_of_head? hm)

lemma exists_list_of_mem_lines {source line : Text} (hl : line ∈ lines source)
    (hd : IsDeclaration line) : ∃ l ∈ (parse source).lists, l.name = line := by
  apply List.mem_map.mp
  rw [(isReading_parse source).names, List.mem_eraseDups, List.mem_filter]
  exact ⟨hl, decide_eq_true hd⟩

lemma mem_tail_pieces {sep : Char} {piece : Text} (h : sep ∉ piece) (before after : Text) :
    piece ∈ (Text.pieces sep (before ++ sep :: (piece ++ sep :: after))).tail := by
  rw [Text.pieces_append_sep, List.tail_append_of_ne_nil (Text.pieces_ne_nil sep before),
    Text.pieces_append_cons h]
  exact List.mem_append_right _ List.mem_cons_self

lemma exists_word_of_hasListBlock {source : Text} (h : hasListBlock source = true) :
    ∃ word, Text.IsWord word ∧ word ∈ (Text.pieces '\n' source).tail := by
  obtain ⟨before, _, rfl, hstarts⟩ := hasListBlock_iff_startsBlock.mp h
  obtain ⟨word, rest, rfl, hne, hchars, _⟩ := startsBlock_iff.mp hstarts
  have hword : Text.IsWord word := Text.isWord_text_iff.mpr ⟨hne, hchars⟩
  exact ⟨word, hword, mem_tail_pieces (hword.not_mem (by decide)) before rest⟩

theorem exists_list_of_valid {source : Text} (h : (Report.ofSource source).valid = true) :
    ∃ l ∈ (parse source).lists, Text.IsWord l.name ∧ l.name ∈ (Text.pieces '\n' source).tail := by
  have hblock : hasListBlock source = true := by
    simpa [Report.ofSource, Report.ofProbes] using h
  obtain ⟨word, hword, hm⟩ := exists_word_of_hasListBlock hblock
  have hline : word ∈ lines source := by
    have ht := List.mem_map_of_mem (f := Text.trim) (List.mem_of_mem_tail hm)
    rwa [hword.trim_eq] at ht
  obtain ⟨l, hl, rfl⟩ := exists_list_of_mem_lines hline (isDeclaration_of_isWord hword)
  exact ⟨l, hl, hword, hm⟩

theorem exists_list_of_valid_redeclared :
    let source : Text := "a\n<p>\nb_1\n\t\n\u2028 x|y\r\nb_1"
    (Report.ofSource source).valid = true ∧
      ∃ l ∈ (parse source).lists, Text.IsWord l.name ∧ l.name ∈ (Text.pieces '\n' source).tail := by
  intro source
  have h : (Report.ofSource source).valid = true := by decide
  exact ⟨h, exists_list_of_valid h⟩

end TemplateServer.Template
