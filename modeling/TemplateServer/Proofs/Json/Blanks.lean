import Mathlib
import TemplateServer.Proofs.Json.Rereading
import TemplateServer.Proofs.Text.Word

/-! No token reaches into the blanks around a JSON text. -/

namespace TemplateServer.Json

def followedBy {α : Type} (tail : Text) (scanned : α × Text) : α × Text :=
  (scanned.1, scanned.2 ++ tail)

section Tail

variable {tail : Text}

lemma takeWhile_append_of_neg {p : Char → Bool} (h : ∀ c ∈ tail, p c = false) (s : Text) :
    (s ++ tail).takeWhile p = s.takeWhile p ∧ (s ++ tail).dropWhile p = s.dropWhile p ++ tail := by
  have hhead : ∀ c ∈ tail.head?, p c = false := fun c hc => h c (List.mem_of_head? hc)
  constructor
  · rw [List.takeWhile_append, takeWhile_of_head? hhead, List.append_nil]
    split
    · next hlength => exact ((List.takeWhile_prefix p).eq_of_length hlength).symm
    · rfl
  · rw [List.dropWhile_append, dropWhile_of_head? hhead]
    split
    · next hempty => rw [List.isEmpty_iff.mp hempty, List.nil_append]
    · rfl

lemma isPrefixOf_append {word : Text} (h : ∀ c ∈ tail, c ∉ word) (s : Text) :
    word.isPrefixOf (s ++ tail) = word.isPrefixOf s := by
  induction word generalizing s with
  | nil => rfl
  | cons d word ih =>
    cases s with
    | nil =>
      cases tail with
      | nil => rfl
      | cons c tail =>
        have hne : d ≠ c := fun e => h c List.mem_cons_self (e ▸ List.mem_cons_self)
        rw [List.nil_append, List.isPrefixOf_cons_cons, beq_false_of_ne hne]
        rfl
    | cons c s =>
      rw [List.cons_append, List.isPrefixOf_cons_cons, List.isPrefixOf_cons_cons,
        ih (fun e he hm => h e he (List.mem_cons_of_mem d hm))]

lemma scanString_of_not_mem (h : '"' ∉ tail) (phase : Token.Phase) (p : Spelling) :
    Token.scanString phase tail p = none := by
  induction tail generalizing phase p with
  | nil => cases phase <;> rfl
  | cons c tail ih =>
    obtain ⟨hc, htail⟩ := not_or.mp (mt List.mem_cons.mpr h)
    cases phase with
    | plain =>
      rw [Token.scanString, if_neg (Ne.symm hc)]
      split
      · exact ih htail _ _
      · split
        · rfl
        · exact ih htail _ _
    | escape =>
      rw [Token.scanString]
      split
      · exact ih htail _ _
      · split
        · rfl
        · exact ih htail _ _
    | hex left n =>
      rw [Token.scanString]
      split
      · rfl
      · split
        · exact ih htail _ _
        · exact ih htail _ _

lemma scanString_append (h : '"' ∉ tail) (phase : Token.Phase) (s : Text) (p : Spelling) :
    Token.scanString phase (s ++ tail) p =
      (Token.scanString phase s p).map (followedBy tail) := by
  induction s generalizing phase p with
  | nil =>
    rw [List.nil_append, scanString_of_not_mem h]
    cases phase <;> rfl
  | cons c s ih =>
    rw [List.cons_append]
    cases phase with
    | plain =>
      rw [Token.scanString, Token.scanString]
      split
      · rfl
      · split
        · exact ih _ _
        · split
          · rfl
          · exact ih _ _
    | escape =>
      rw [Token.scanString, Token.scanString]
      split
      · exact ih _ _
      · split
        · rfl
        · exact ih _ _
    | hex left n =>
      rw [Token.scanString, Token.scanString]
      split
      · rfl
      · split
        · exact ih _ _
        · exact ih _ _

lemma keyword?_append {word : Text} (h : ∀ c ∈ tail, c ∉ word) (t : Token) (s : Text) :
    Token.keyword? word t (s ++ tail) = (Token.keyword? word t s).map (followedBy tail) := by
  rw [Token.keyword?, Token.keyword?, isPrefixOf_append h]
  split
  · next hp =>
    have hlength := (List.isPrefixOf_iff_prefix.mp hp).length_le
    rw [List.drop_append_of_le_length hlength]
    rfl
  · rfl

end Tail

def AllBlank (tail : Text) : Prop := ∀ c ∈ tail, Text.isBlank c = true

namespace AllBlank

variable {tail : Text}

lemma not_mem (h : AllBlank tail) {c : Char} (hc : Text.isBlank c = false) : c ∉ tail := by
  intro hm
  rw [h c hm] at hc
  cases hc

lemma head?_append_ne (h : AllBlank tail) {s : Text} {c : Char} (hc : Text.isBlank c = false)
    (hs : s.head? ≠ some c) : (s ++ tail).head? ≠ some c := by
  cases s with
  | nil => exact fun hm => h.not_mem hc (List.mem_of_head? hm)
  | cons d s => exact hs

lemma not_isDigit (h : AllBlank tail) : ∀ c ∈ tail, c.isDigit = false := by
  intro c hc
  cases hd : c.isDigit with
  | false => rfl
  | true =>
    have hword : Text.isWord c = true := by simp [Text.isWord, Char.isAlphanum, hd]
    exact absurd hc (h.not_mem (Text.isBlank_of_isWord hword))

open Numeral

lemma scanSign_append (h : AllBlank tail) (s : Text) :
    scanSign (s ++ tail) = followedBy tail (scanSign s) := by
  by_cases hs : s.head? = some '-'
  · rw [List.eq_cons_of_mem_head? hs]
    rfl
  · rw [scanSign_of_head? hs, scanSign_of_head? (h.head?_append_ne (by decide) hs)]
    rfl

lemma scanExponentSign_append (h : AllBlank tail) (s : Text) :
    scanExponentSign (s ++ tail) = followedBy tail (scanExponentSign s) := by
  by_cases hminus : s.head? = some '-'
  · rw [List.eq_cons_of_mem_head? hminus]
    rfl
  · by_cases hplus : s.head? = some '+'
    · rw [List.eq_cons_of_mem_head? hplus]
      rfl
    · rw [scanExponentSign_of_head? hminus hplus,
        scanExponentSign_of_head? (h.head?_append_ne (by decide) hminus)
          (h.head?_append_ne (by decide) hplus)]
      rfl

lemma scanFraction?_append (h : AllBlank tail) (s : Text) :
    scanFraction? (s ++ tail) = (scanFraction? s).map (followedBy tail) := by
  by_cases hs : s.head? = some '.'
  · obtain ⟨htake, hdrop⟩ := takeWhile_append_of_neg h.not_isDigit s.tail
    rw [List.eq_cons_of_mem_head? hs, List.cons_append, scanFraction?, scanFraction?, htake, hdrop]
    cases (s.tail.takeWhile Char.isDigit).isEmpty <;> rfl
  · rw [scanFraction?_of_head? hs, scanFraction?_of_head? (h.head?_append_ne (by decide) hs)]
    rfl

lemma scanExponent?_append (h : AllBlank tail) (s : Text) :
    scanExponent? (s ++ tail) = (scanExponent? s).map (followedBy tail) := by
  cases s with
  | nil =>
    have hhead : ∀ {c : Char}, Text.isBlank c = false → tail.head? ≠ some c :=
      fun hc => h.head?_append_ne hc (s := []) (by simp)
    exact scanExponent?_of_head? (hhead (by decide)) (hhead (by decide))
  | cons c s =>
    rw [List.cons_append, scanExponent?, scanExponent?, h.scanExponentSign_append]
    split
    · obtain ⟨htake, hdrop⟩ := takeWhile_append_of_neg h.not_isDigit (scanExponentSign s).2
      simp only [followedBy, htake, hdrop]
      cases ((scanExponentSign s).2.takeWhile Char.isDigit).isEmpty <;> rfl
    · rfl

lemma scan?_append (h : AllBlank tail) (s : Text) :
    scan? (s ++ tail) = (scan? s).map (followedBy tail) := by
  obtain ⟨htake, hdrop⟩ := takeWhile_append_of_neg h.not_isDigit (scanSign s).2
  rw [scan?, scan?, h.scanSign_append]
  simp only [followedBy, htake, hdrop]
  split
  · rw [h.scanFraction?_append]
    cases scanFraction? ((scanSign s).2.dropWhile Char.isDigit) with
    | none => rfl
    | some fraction =>
      simp only [Option.map_some, Option.bind_eq_bind, Option.bind_some, followedBy,
        h.scanExponent?_append]
      cases scanExponent? fraction.2 with
      | none => rfl
      | some exponent => rfl
  · rfl

lemma next?_append (h : AllBlank tail) (c : Char) (s : Text) :
    Token.next? c (s ++ tail) = (Token.next? c s).map (followedBy tail) := by
  have hword : ∀ {word : Text}, word.any Text.isBlank = false → ∀ d ∈ tail, d ∉ word := by
    intro word hw d hd hm
    rw [List.any_eq_false] at hw
    exact hw d hm (h d hd)
  rw [Token.next?.eq_def, Token.next?.eq_def]
  split
  case h_7 =>
    rw [scanString_append (h.not_mem (by decide))]
    cases Token.scanString .plain s [] <;> rfl
  case h_8 => exact keyword?_append (hword (by decide)) _ s
  case h_9 => exact keyword?_append (hword (by decide)) _ s
  case h_10 => exact keyword?_append (hword (by decide)) _ s
  case h_11 =>
    rw [← List.cons_append, h.scan?_append]
    cases scan? (c :: s) <;> rfl
  all_goals rfl

end AllBlank

lemma next?_of_isBlank {c : Char} (hc : Text.isBlank c = true) (rest : Text) :
    Token.next? c rest = none := by
  have hblank : AllBlank [c] := by simpa [AllBlank] using hc
  have hdigit : ¬ c.isDigit = true := by simp [hblank.not_isDigit c]
  have hminus : (c :: rest).head? ≠ some '-' := by
    rintro ⟨⟩
    exact absurd hc (by decide)
  have hnumber : Numeral.scan? (c :: rest) = none := by
    rw [Numeral.scan?, Numeral.scanSign_of_head? hminus]
    simp only [List.takeWhile_cons_of_neg hdigit]
    rfl
  rw [Token.next?.eq_def]
  split
  case h_11 =>
    rw [hnumber]
    rfl
  all_goals exact absurd hc (by decide)

namespace Token

lemma scanFrom_cons_cases {done ts : List Token} {c : Char} {rest : Text}
    (h : scanFrom done (c :: rest) = some ts) :
    isBlank c = true ∧ scanFrom done rest = some ts ∨
      isBlank c = false ∧ ∃ t rest', next? c rest = some (t, rest') ∧
        scanFrom (t :: done) rest' = some ts := by
  cases hb : isBlank c with
  | true =>
    rw [scanFrom, if_pos hb] at h
    exact Or.inl ⟨rfl, h⟩
  | false =>
    cases hn : next? c rest with
    | none =>
      rw [scanFrom, hb, if_neg Bool.false_ne_true] at h
      split at h
      · cases h
      · next hs =>
        rw [hn] at hs
        cases hs
    | some scanned =>
      rw [scanFrom_cons hb hn] at h
      exact Or.inr ⟨rfl, _, _, rfl, h⟩

lemma scanFrom_blank {c : Char} (hb : isBlank c = true) (done : List Token) (rest : Text) :
    scanFrom done (c :: rest) = scanFrom done rest := by
  rw [scanFrom, if_pos hb]

lemma scanFrom_trimStart {done ts : List Token} {s : Text} (h : scanFrom done s = some ts) :
    scanFrom done s.trimStart = some ts := by
  induction s with
  | nil => exact h
  | cons c rest ih =>
    cases hc : Text.isBlank c with
    | true =>
      rw [Text.trimStart, List.dropWhile_cons_of_pos hc]
      rcases scanFrom_cons_cases h with ⟨_, h⟩ | ⟨_, t, rest', hn, _⟩
      · exact ih h
      · rw [next?_of_isBlank hc] at hn
        cases hn
    | false =>
      rwa [Text.trimStart_eq_self]
      rintro _ ⟨⟩
      exact hc

lemma scanFrom_of_allBlank {done ts : List Token} {tail : Text} (hb : AllBlank tail)
    (h : scanFrom done tail = some ts) : ts = done.reverse := by
  induction tail with
  | nil =>
    rw [scanFrom_nil] at h
    cases h
    rfl
  | cons c tail ih =>
    obtain ⟨hc, htail⟩ := List.forall_mem_cons.mp hb
    rcases scanFrom_cons_cases h with ⟨_, h⟩ | ⟨_, t, rest', hn, _⟩
    · exact ih htail h
    · rw [next?_of_isBlank hc] at hn
      cases hn

lemma scanFrom_of_append {tail : Text} (hb : AllBlank tail) {done ts : List Token} {s : Text}
    (h : scanFrom done (s ++ tail) = some ts) : scanFrom done s = some ts := by
  -- on the length, since a token takes several characters at once
  induction hn : s.length using Nat.strongRecOn generalizing s done with
  | ind n ih =>
    cases s with
    | nil => rw [scanFrom_nil, scanFrom_of_allBlank hb h]
    | cons c s =>
      rw [List.length_cons] at hn
      rcases scanFrom_cons_cases h with ⟨hc, h⟩ | ⟨hc, t, rest, ht, h⟩
      · rw [scanFrom_blank hc]
        exact ih s.length (by omega) h rfl
      · change next? c (s ++ tail) = _ at ht
        rw [hb.next?_append] at ht
        obtain ⟨⟨u, rest'⟩, hu, he⟩ := Option.map_eq_some_iff.mp ht
        cases he
        rw [scanFrom_cons hc hu]
        have hlength := length_next?_le hu
        exact ih rest'.length (by omega) h rfl

lemma scan_trim {s : Text} {ts : List Token} (h : scan s = some ts) : scan s.trim = some ts := by
  have hstart : scanFrom [] s.trimStart = some ts := scanFrom_trimStart h
  have hsplit : s.trim ++ s.trimStart.rtakeWhile Text.isBlank = s.trimStart :=
    List.rdropWhile_append_rtakeWhile
  rw [← hsplit] at hstart
  exact scanFrom_of_append (fun c hc => List.mem_rtakeWhile_imp hc) hstart

end Token

theorem formRead?_trim {s : Text} {f : Form} (h : Form.read? s = some f) :
    Form.read? s.trim = some f := by
  obtain ⟨ts, hts, hf⟩ := Option.bind_eq_some_iff.mp h
  rw [Form.read?, Token.scan_trim hts, Option.bind_some, hf]

end TemplateServer.Json
