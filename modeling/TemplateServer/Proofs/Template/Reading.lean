import TemplateServer.Proofs.Template.Block
import TemplateServer.Proofs.Text.Pieces

namespace TemplateServer.Template

section Modify

variable (lists : List OptionList) (i : Nat) (change : List Text → List Text)

lemma names_modify :
    (lists.modify i fun l => { l with options := change l.options }).map OptionList.name =
      lists.map OptionList.name := by
  apply List.ext_getElem?
  intro j
  rw [List.getElem?_map, List.getElem?_map, List.getElem?_modify]
  cases lists[j]? with
  | none => rfl
  | some l =>
    by_cases h : i = j <;> simp [h]

lemma of_getElem?_modify {j : Nat} {l : OptionList}
    (hl : (lists.modify i fun l => { l with options := change l.options })[j]? = some l) :
    ∃ options, lists[j]? = some ⟨l.name, options⟩ ∧
      l.options = if i = j then change options else options := by
  rw [List.getElem?_modify] at hl
  obtain ⟨m, hm, rfl⟩ := Option.map_eq_some_iff.mp hl
  by_cases h : i = j
  · exact ⟨m.options, by simp [h, hm], by simp [h]⟩
  · exact ⟨m.options, by simp [h, hm], by simp [h]⟩

end Modify

/-- What a scan holds once it has read some lines: their reading, and the place of the list whose
block is still open. -/
structure Scan.Reads (scan : Scan) (ls : List Text) : Prop where
  names : scan.lists.map OptionList.name = (ls.filter (IsDeclaration ·)).eraseDups
  options : ∀ i l, scan.lists[i]? = some l → ∃ block after, Below ls l.name block after ∧
    l.options = optionsIn block ∧ (after = [] ↔ scan.active = some i)
  active_lt : ∀ i, scan.active = some i → i < scan.lists.length
  inactive : scan.active = none → ∀ line ∈ ls, ¬ IsDeclaration line

namespace Scan.Reads

variable {scan : Scan} {ls : List Text} {line : Text}

lemma isReading (h : scan.Reads ls) : IsReading ls scan.lists := by
  refine ⟨h.names, ?_⟩
  intro l hl
  obtain ⟨i, hi⟩ := List.mem_iff_getElem?.mp hl
  obtain ⟨block, after, hb, ho, _⟩ := h.options i l hi
  exact ⟨block, after, hb, ho⟩

lemma active_none_iff (h : scan.Reads ls) :
    scan.active = none ↔ ∀ line ∈ ls, ¬ IsDeclaration line := by
  refine ⟨h.inactive, ?_⟩
  intro hn
  have hl : scan.lists = [] := by
    apply List.map_eq_nil_iff.mp
    rw [h.names, List.filter_eq_nil_iff.mpr (by simpa using hn), List.eraseDups_nil]
  cases ha : scan.active with
  | none => rfl
  | some i =>
    have hlt := h.active_lt i ha
    rw [hl] at hlt
    cases hlt

lemma getLast?_of_active (h : scan.Reads ls) {i : Nat} (hi : scan.active = some i) :
    ∃ h : i < scan.lists.length,
      (ls.filter (IsDeclaration ·)).getLast? = some scan.lists[i].name := by
  have hlt := h.active_lt i hi
  obtain ⟨block, after, hb, _, ha⟩ := h.options i _ (List.getElem?_eq_getElem hlt)
  obtain rfl := ha.mpr hi
  exact ⟨hlt, hb.getLast? (h.isReading.isDeclaration (List.getElem_mem hlt)).2⟩

lemma of_start : start.Reads [] := by
  refine ⟨rfl, ?_, ?_, ?_⟩ <;> simp [start]

lemma declare_new (h : scan.Reads ls) (hd : IsDeclaration line)
    (hline : ∀ l ∈ scan.lists, l.name ≠ line) :
    Scan.Reads ⟨scan.lists ++ [⟨line, []⟩], some scan.lists.length⟩ (ls ++ [line]) := by
  have hnew : line ∉ ls.filter (IsDeclaration ·) := by
    rw [← List.mem_eraseDups, ← h.names, List.mem_map]
    rintro ⟨l, hl, he⟩
    exact hline l hl he
  refine ⟨?_, ?_, ?_, ?_⟩
  · rw [List.map_append, h.names, filter_concat_declaration hd, eraseDups_concat_of_not_mem hnew]
    rfl
  · intro i l hi
    rcases Nat.lt_trichotomy i scan.lists.length with hlt | rfl | hgt
    · rw [List.getElem?_append_left hlt] at hi
      obtain ⟨block, after, hb, ho, _⟩ := h.options i l hi
      refine ⟨block, after ++ [line], hb.past ?_ (fun _ => hd), ho, ?_⟩
      · exact Ne.symm (hline l (List.mem_of_getElem? hi))
      · simp [Nat.ne_of_gt hlt]
    · obtain rfl : l = ⟨line, []⟩ := by simpa using hi.symm
      exact ⟨[], [], Below.at_end ls line, rfl, by simp⟩
    · rw [List.getElem?_eq_none (by simp; omega)] at hi
      cases hi
  · rintro i ⟨⟩
    simp
  · rintro ⟨⟩

lemma eq_of_name (h : scan.Reads ls) {i j : Nat} {l m : OptionList} (hi : scan.lists[i]? = some l)
    (hj : scan.lists[j]? = some m) (he : l.name = m.name) : i = j := by
  obtain ⟨hlt, rfl⟩ := List.getElem?_eq_some_iff.mp hi
  obtain ⟨hlt', rfl⟩ := List.getElem?_eq_some_iff.mp hj
  rw [← List.length_map OptionList.name] at hlt hlt'
  have hn : (scan.lists.map OptionList.name)[i] = (scan.lists.map OptionList.name)[j] := by
    simpa using he
  exact h.isReading.names_nodup.getElem_inj_iff.mp hn

lemma declare_again (h : scan.Reads ls) {i : Nat} {l : OptionList}
    (hi : scan.lists[i]? = some l) :
    Scan.Reads ⟨scan.lists.modify i fun l => { l with options := [] }, some i⟩
      (ls ++ [l.name]) := by
  obtain ⟨hm, hd⟩ := h.isReading.isDeclaration (List.mem_of_getElem? hi)
  refine ⟨?_, ?_, ?_, ?_⟩
  · have hold : l.name ∈ ls.filter (IsDeclaration ·) :=
      List.mem_filter.mpr ⟨hm, decide_eq_true hd⟩
    rw [names_modify _ _ (fun _ => []), h.names, filter_concat_declaration hd,
      eraseDups_concat_of_mem hold]
  · intro j m hj
    obtain ⟨options, hj, ho⟩ := of_getElem?_modify scan.lists i (fun _ => []) hj
    by_cases hij : i = j
    · subst hij
      have hl := Option.some.inj (hi.symm.trans hj)
      have hname : l.name = m.name := by rw [hl]
      rw [if_pos rfl] at ho
      rw [hname]
      exact ⟨[], [], Below.at_end ls m.name, ho, by simp⟩
    · obtain ⟨block, after, hb, ho', _⟩ := h.options j _ hj
      rw [if_neg hij] at ho
      refine ⟨block, after ++ [l.name], hb.past ?_ (fun _ => hd), ho.trans ho', ?_⟩
      · exact fun he => hij (h.eq_of_name hi hj he)
      · simp [hij]
  · rintro j ⟨⟩
    rw [List.length_modify]
    exact (List.getElem?_eq_some_iff.mp hi).1
  · rintro ⟨⟩

lemma declare (h : scan.Reads ls) (hd : IsDeclaration line) :
    (scan.declare line).Reads (ls ++ [line]) := by
  rw [Scan.declare]
  split
  · next i hi =>
    obtain ⟨hlt, hn, _⟩ := List.findIdx?_eq_some_iff_getElem.mp hi
    obtain rfl : scan.lists[i].name = line := by simpa using hn
    exact h.declare_again (List.getElem?_eq_getElem hlt)
  · next hi =>
    exact h.declare_new hd (by simpa using List.findIdx?_eq_none_iff.mp hi)

lemma other (h : scan.Reads ls) (hd : ¬ IsDeclaration line) {lists : List OptionList}
    (hnames : lists.map OptionList.name = scan.lists.map OptionList.name)
    (hlists : ∀ i l, lists[i]? = some l → ∃ options, scan.lists[i]? = some ⟨l.name, options⟩ ∧
      l.options = if scan.active = some i then options ++ optionsIn [line] else options) :
    Scan.Reads ⟨lists, scan.active⟩ (ls ++ [line]) := by
  refine ⟨?_, ?_, ?_, ?_⟩
  · rw [hnames, h.names, filter_concat_other hd]
  · intro i l hl
    obtain ⟨options, hi, ho⟩ := hlists i l hl
    obtain ⟨block, after, hb, hb', ha⟩ := h.options i _ hi
    have hn : IsDeclaration l.name := (h.isReading.isDeclaration (List.mem_of_getElem? hi)).2
    by_cases hai : scan.active = some i
    · obtain rfl := ha.mpr hai
      refine ⟨block ++ [line], [], hb.grow hd, ?_, by simp [hai]⟩
      rw [ho, if_pos hai, optionsIn_concat]
      exact congrArg (· ++ optionsIn [line]) hb'
    · have hne : after ≠ [] := fun e => hai (ha.mp e)
      refine ⟨block, after ++ [line], hb.past ?_ (fun e => absurd e hne), ?_, by simp [hai]⟩
      · exact fun e => hd (e ▸ hn)
      · rw [ho, if_neg hai]
        exact hb'
  · intro i hi
    have hlength : lists.length = scan.lists.length := by simpa using congrArg List.length hnames
    exact hlength ▸ h.active_lt i hi
  · intro hi l hl
    rcases List.mem_append.mp hl with hl | hl
    · exact h.inactive hi l hl
    · exact List.mem_singleton.mp hl ▸ hd

lemma offer (h : scan.Reads ls) (ho : IsOptionLine line) :
    (scan.offer (optionsOf line)).Reads (ls ++ [line]) := by
  have hd : ¬ IsDeclaration line := fun hd => hd.no_bar ho.has_bar
  rw [Scan.offer]
  split
  · next hi =>
    apply h.other hd rfl
    intro i l hl
    refine ⟨l.options, hl, by simp [hi]⟩
  · next i hi =>
    apply h.other hd (names_modify scan.lists i (· ++ optionsOf line))
    intro j l hl
    have hin : optionsIn [line] = optionsOf line := by simp [optionsIn_eq, ho]
    obtain ⟨options, hj, he⟩ := of_getElem?_modify scan.lists i (· ++ optionsOf line) hl
    exact ⟨options, hj, by simp [he, hi, hin]⟩

lemma skip (h : scan.Reads ls) (hd : ¬ IsDeclaration line) (ho : ¬ IsOptionLine line) :
    scan.Reads (ls ++ [line]) := by
  apply h.other hd rfl
  intro i l hl
  exact ⟨l.options, hl, by simp [optionsIn_eq, ho]⟩

lemma next (h : scan.Reads ls) (line : Text) : (scan.line line).Reads (ls ++ [line]) := by
  rw [Scan.line]
  split
  · next hd => exact h.declare (declares_iff.mp hd)
  · next hd =>
    split
    · next ho => exact h.offer (offers_iff.mp ho)
    · next ho => exact h.skip (mt declares_iff.mpr hd) (mt offers_iff.mpr ho)

end Scan.Reads

lemma Scan.reads_foldl (ls : List Text) : (ls.foldl Scan.line Scan.start).Reads ls := by
  induction ls using List.reverseRecOn with
  | nil => exact .of_start
  | append_singleton ls line ih =>
    rw [List.foldl_append]
    exact ih.next line

lemma lines_append (source rest : Text) :
    lines (source ++ '\n' :: rest) = lines source ++ lines rest := by
  rw [lines, lines, lines, Text.pieces_append_sep, List.map_append]

lemma lines_of_not_mem {line : Text} (h : '\n' ∉ line) : lines line = [line.trim] := by
  rw [lines, Text.pieces_of_not_mem h, List.map_singleton]

lemma isReading_parse (source : Text) : IsReading (lines source) (parse source).lists :=
  (Scan.reads_foldl (lines source)).isReading

def IsBody (source body : Text) : Prop :=
  ∃ first rest, lines source = first :: rest ∧ body = if first = [] then source else first

lemma isBody_bodyOf (source : Text) : IsBody source (bodyOf source) := by
  obtain ⟨first, rest, hl⟩ := List.exists_cons_of_ne_nil
    (show lines source ≠ [] by simpa [lines] using Text.pieces_ne_nil '\n' source)
  refine ⟨first, rest, hl, ?_⟩
  cases first <;> simp [bodyOf, hl]

lemma IsBody.eq {source body body' : Text} (h : IsBody source body) (h' : IsBody source body') :
    body = body' := by
  obtain ⟨first, rest, hl, rfl⟩ := h
  obtain ⟨first', rest', hl', rfl⟩ := h'
  rw [hl, List.cons.injEq] at hl'
  rw [hl'.1]

theorem parse_eq_iff (source : Text) :
    (∀ t, parse source = t ↔ IsReading (lines source) t.lists ∧ IsBody source t.body) ∧
      ∀ read, read <+: lines source →
        let scan := read.foldl Scan.line Scan.start
        (scan.active = none ↔ ∀ line ∈ read, ¬ IsDeclaration line) ∧
          ∀ i, scan.active = some i → ∃ h : i < scan.lists.length,
            (read.filter (IsDeclaration ·)).getLast? = some scan.lists[i].name := by
  constructor
  · intro t
    constructor
    · rintro rfl
      exact ⟨isReading_parse source, isBody_bodyOf source⟩
    · rintro ⟨hl, hb⟩
      rw [Template.mk.injEq]
      exact ⟨(isReading_parse source).eq hl, (isBody_bodyOf source).eq hb⟩
  · intro read _ scan
    have h : scan.Reads read := Scan.reads_foldl read
    exact ⟨h.active_none_iff, fun i hi => h.getLast?_of_active hi⟩

theorem parse_declared_again :
    let source : Text := "<p>\nx|y\nb\n u | v\na\n1 |\nb\n|w"
    let read : List Text := ["<p>", "x|y", "b", "u | v", "a", "1 |", "b"]
    let scan := read.foldl Scan.line Scan.start
    IsReading (lines source) [⟨"b", ["", "w"]⟩, ⟨"a", ["1", ""]⟩] ∧ read <+: lines source ∧
      scan.active = some 0 ∧ ∃ h : 0 < scan.lists.length,
        (read.filter (IsDeclaration ·)).getLast? = some scan.lists[0].name := by
  intro source read scan
  have hread : read <+: lines source := by decide
  have hactive : scan.active = some 0 := by decide
  obtain ⟨hiff, hscan⟩ := parse_eq_iff source
  have hp : parse source = ⟨[⟨"b", ["", "w"]⟩, ⟨"a", ["1", ""]⟩], "<p>"⟩ := by decide
  exact ⟨((hiff _).mp hp).1, hread, hactive, (hscan read hread).2 0 hactive⟩

end TemplateServer.Template
