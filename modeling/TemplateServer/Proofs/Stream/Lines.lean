import Mathlib.Data.List.Basic
import Mathlib.Data.List.TakeWhile
import Mathlib.Tactic.Lemma
import TemplateServer.Proofs.Text.Pieces
import TemplateServer.Server.Stream

namespace TemplateServer

def lineLength (b : Bytes) : Nat := (b.takeWhile (· != lineFeed)).length + 1

def lines : Bytes → List Bytes
  | [] => []
  | c :: rest =>
    if c = lineFeed then [c] :: lines rest
    else match lines rest with
      | [] => [[c]]
      | line :: others => (c :: line) :: others

inductive IsLines : List Bytes → Prop
  | nil : IsLines []
  | last {line : Bytes} : line ≠ [] → lineFeed ∉ line → IsLines [line]
  | ended {body : Bytes} {rest : List Bytes} : lineFeed ∉ body → IsLines rest →
      IsLines ((body ++ [lineFeed]) :: rest)

lemma bne_lineFeed {b : Bytes} (h : lineFeed ∉ b) : ∀ c ∈ b, (c != lineFeed) = true := by
  intro c hc
  exact bne_iff_ne.mpr (fun e => h (e ▸ hc))

lemma takeWhile_of_not_mem {b : Bytes} (h : lineFeed ∉ b) : b.takeWhile (· != lineFeed) = b :=
  List.takeWhile_eq_self_iff.mpr (bne_lineFeed h)

lemma dropWhile_of_not_mem {b : Bytes} (h : lineFeed ∉ b) : b.dropWhile (· != lineFeed) = [] :=
  List.dropWhile_eq_nil_iff.mpr (bne_lineFeed h)

lemma takeWhile_append_lineFeed {body : Bytes} (h : lineFeed ∉ body) (rest : Bytes) :
    (body ++ lineFeed :: rest).takeWhile (· != lineFeed) = body := by
  rw [List.takeWhile_append_of_pos (bne_lineFeed h), List.takeWhile_cons_of_neg (by decide),
    List.append_nil]

lemma dropWhile_append_lineFeed {body : Bytes} (h : lineFeed ∉ body) (rest : Bytes) :
    (body ++ lineFeed :: rest).dropWhile (· != lineFeed) = lineFeed :: rest := by
  rw [List.dropWhile_append_of_pos (bne_lineFeed h), List.dropWhile_cons_of_neg (by decide)]

lemma lineLength_of_not_mem {b : Bytes} (h : lineFeed ∉ b) : lineLength b = b.length + 1 := by
  rw [lineLength, takeWhile_of_not_mem h]

lemma lineLength_append {b : Bytes} (h : lineFeed ∉ b) (rest : Bytes) :
    lineLength (b ++ rest) = b.length + lineLength rest := by
  rw [lineLength, lineLength, List.takeWhile_append_of_pos (bne_lineFeed h), List.length_append,
    Nat.add_assoc]

lemma lineLength_append_lineFeed {body : Bytes} (h : lineFeed ∉ body) (rest : Bytes) :
    lineLength (body ++ lineFeed :: rest) = body.length + 1 := by
  rw [lineLength, takeWhile_append_lineFeed h]

lemma lines_append_lineFeed {body : Bytes} (h : lineFeed ∉ body) (rest : Bytes) :
    lines (body ++ lineFeed :: rest) = (body ++ [lineFeed]) :: lines rest := by
  induction body with
  | nil => simp [lines]
  | cons c body ih =>
    obtain ⟨hc, hb⟩ := not_or.mp (mt List.mem_cons.mpr h)
    simp [lines, Ne.symm hc, ih hb]

lemma lines_of_not_mem {b : Bytes} (hne : b ≠ []) (h : lineFeed ∉ b) : lines b = [b] := by
  induction b with
  | nil => exact absurd rfl hne
  | cons c b ih =>
    obtain ⟨hc, hb⟩ := not_or.mp (mt List.mem_cons.mpr h)
    cases b with
    | nil => simp [lines, Ne.symm hc]
    | cons d b => rw [lines, if_neg (Ne.symm hc), ih (List.cons_ne_nil d b) hb]

lemma isLines_lines (b : Bytes) : IsLines (lines b) ∧ (lines b).flatten = b := by
  induction b using separator_induction lineFeed with
  | last b h =>
    by_cases hb : b = []
    · subst hb
      exact ⟨.nil, rfl⟩
    · rw [lines_of_not_mem hb h]
      exact ⟨.last hb h, List.flatten_singleton⟩
  | more body rest h ih =>
    obtain ⟨hr, he⟩ := ih
    rw [lines_append_lineFeed h]
    exact ⟨.ended h hr, by simp [he]⟩

lemma lines_flatten {ls : List Bytes} (h : IsLines ls) : lines ls.flatten = ls := by
  induction h with
  | nil => rfl
  | last hne hn => rw [List.flatten_singleton, lines_of_not_mem hne hn]
  | @ended body rest hn _ ih =>
    rw [List.flatten_cons, List.append_assoc, List.singleton_append, lines_append_lineFeed hn, ih]

lemma lines_eq_cons {b : Bytes} (hb : b ≠ []) :
    lines b = b.take (lineLength b) :: lines (b.drop (lineLength b)) := by
  rcases separator_cases lineFeed b with h | ⟨body, rest, h, rfl⟩
  · have hl := lineLength_of_not_mem h
    rw [List.take_of_length_le (by omega), List.drop_of_length_le (by omega)]
    exact lines_of_not_mem hb h
  · rw [lineLength_append_lineFeed h, List.take_length_add_append, List.drop_length_add_append,
      lines_append_lineFeed h]
    rfl

lemma lineLength_concat_lineFeed (b : Bytes) : lineLength (b ++ [lineFeed]) = lineLength b := by
  rcases separator_cases lineFeed b with h | ⟨body, rest, h, rfl⟩
  · rw [lineLength_append_lineFeed h, lineLength_of_not_mem h]
  · rw [List.append_assoc, List.cons_append, lineLength_append_lineFeed h,
      lineLength_append_lineFeed h]

lemma lines_concat_lineFeed {b : Bytes} (hne : b ≠ []) (hend : b.getLast? ≠ some lineFeed) :
    ∃ earlier last, lines b = earlier ++ [last] ∧
      lines (b ++ [lineFeed]) = earlier ++ [last ++ [lineFeed]] := by
  induction b using separator_induction lineFeed with
  | last b h => exact ⟨[], b, lines_of_not_mem hne h, lines_append_lineFeed h []⟩
  | more body rest h ih =>
    have hrest : rest ≠ [] := by
      rintro rfl
      exact hend List.getLast?_concat
    rw [List.getLast?_append_of_ne_nil _ (List.cons_ne_nil _ _),
      List.getLast?_cons_of_ne_nil hrest] at hend
    obtain ⟨earlier, last, hb, hb'⟩ := ih hrest hend
    refine ⟨(body ++ [lineFeed]) :: earlier, last, ?_, ?_⟩
    · rw [lines_append_lineFeed h, hb, List.cons_append]
    · rw [List.append_assoc, List.cons_append, lines_append_lineFeed h, hb', List.cons_append]

end TemplateServer
