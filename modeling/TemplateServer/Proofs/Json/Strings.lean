import Mathlib.Tactic.Lemma
import TemplateServer.Json.Token

namespace TemplateServer.Json

def pieceOf (c : Char) : Piece :=
  if c < ' ' ∧ c ∉ ['\x08', '\x0c', '\n', '\r', '\t'] then .unit c.toNat else .char c

def spell (s : Text) : Spelling := s.map pieceOf

lemma hexDigit?_digitChar : ∀ d < 16, Token.hexDigit? (Nat.digitChar d) = some d := by decide

lemma scanString_controlEscape {c : Char} (h : c < ' ') (rest : Text) (p : Spelling) :
    Token.scanString .plain (controlEscape c ++ rest) p =
      Token.scanString .plain rest (.unit c.toNat :: p) := by
  have hc : c.toNat < 32 := h
  have hhigh := hexDigit?_digitChar (c.toNat / 16) (by omega)
  have hlow := hexDigit?_digitChar (c.toNat % 16) (by omega)
  have hzero : Token.hexDigit? '0' = some 0 := by decide
  have hsum : 16 * (c.toNat / 16) + c.toNat % 16 = c.toNat := Nat.div_add_mod c.toNat 16
  change Token.scanString .plain ('\\' :: 'u' :: '0' :: '0' ::
    Nat.digitChar (c.toNat / 16) :: Nat.digitChar (c.toNat % 16) :: rest) p = _
  simp [Token.scanString, hzero, hhigh, hlow, hsum]

lemma scanString_escapeChar (c : Char) (rest : Text) (p : Spelling) :
    Token.scanString .plain (escapeChar c ++ rest) p =
      Token.scanString .plain rest (pieceOf c :: p) := by
  by_cases hnamed : c ∈ ['"', '\\', '\x08', '\x0c', '\n', '\r', '\t']
  · simp only [List.mem_cons, List.not_mem_nil, or_false] at hnamed
    rcases hnamed with rfl | rfl | rfl | rfl | rfl | rfl | rfl <;> rfl
  · simp only [List.mem_cons, List.not_mem_nil, or_false, not_or] at hnamed
    obtain ⟨h1, h2, h3, h4, h5, h6, h7⟩ := hnamed
    by_cases hc : c < ' '
    · have hp : pieceOf c = .unit c.toNat := by
        rw [pieceOf, if_pos]
        simp [hc, h3, h4, h5, h6, h7]
      have he : escapeChar c = controlEscape c := by
        simp [escapeChar, h1, h2, h3, h4, h5, h6, h7, hc]
      rw [he, hp, scanString_controlEscape hc]
    · have hp : pieceOf c = .char c := by
        rw [pieceOf, if_neg (fun h => hc h.1)]
      have he : escapeChar c = [c] := by
        simp [escapeChar, h1, h2, h3, h4, h5, h6, h7, hc]
      rw [he, hp, List.singleton_append, Token.scanString, if_neg h1, if_neg h2, if_neg hc]

lemma scanString_escaped (s rest : Text) (p : Spelling) :
    Token.scanString .plain (s.flatMap escapeChar ++ '"' :: rest) p =
      some (p.reverse ++ spell s, rest) := by
  induction s generalizing p with
  | nil => simp [Token.scanString, spell]
  | cons c s ih =>
    rw [List.flatMap_cons, List.append_assoc, scanString_escapeChar, ih]
    simp [spell]

lemma next?_quote (s rest : Text) :
    Token.next? '"' (s.flatMap escapeChar ++ '"' :: rest) = some (.string (spell s), rest) := by
  change (Token.scanString .plain (s.flatMap escapeChar ++ '"' :: rest) []).map _ = _
  rw [scanString_escaped]
  rfl

lemma join_spell (s out : Text) : Spelling.join none (spell s) out = some (out.reverse ++ s) := by
  induction s generalizing out with
  | nil => simp [spell, Spelling.join]
  | cons c s ih =>
    rw [spell, List.map_cons, ← spell, pieceOf]
    split
    · rename_i hc
      have hlt : c.toNat < 32 := hc.1
      have hlead : Spelling.isLead c.toNat = false := by
        simp only [Spelling.isLead, Bool.and_eq_false_iff, decide_eq_false_iff_not]
        omega
      have htrail : Spelling.isTrail c.toNat = false := by
        simp only [Spelling.isTrail, Bool.and_eq_false_iff, decide_eq_false_iff_not]
        omega
      simp [Spelling.join, hlead, htrail, Char.ofNat_toNat, ih]
    · simp [Spelling.join, ih]

lemma text?_spell (s : Text) : (spell s).text? = some s := join_spell s []

end TemplateServer.Json
