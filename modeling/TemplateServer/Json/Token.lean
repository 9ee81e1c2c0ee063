import TemplateServer.Json.Numeral

/-! The tokens of a JSON text. A string is kept as it is spelled, since an escaped surrogate is no
character by itself. -/

namespace TemplateServer.Json

inductive Piece where
  | char (c : Char)
  | unit (n : Nat)
  deriving DecidableEq, Repr

abbrev Spelling := List Piece

namespace Spelling

def isLead (n : Nat) : Bool := 0xd800 ≤ n && n ≤ 0xdbff

def isTrail (n : Nat) : Bool := 0xdc00 ≤ n && n ≤ 0xdfff

def join : Option Nat → Spelling → Text → Option Text
  | none, [], s => some s.reverse
  | some _, [], _ => none
  | none, .char c :: rest, s => join none rest (c :: s)
  | some _, .char _ :: _, _ => none
  | none, .unit n :: rest, s =>
    if isLead n then join (some n) rest s
    else if isTrail n then none
    else join none rest (Char.ofNat n :: s)
  | some lead, .unit n :: rest, s =>
    if isTrail n then
      join none rest (Char.ofNat (0x10000 + (lead - 0xd800) * 0x400 + (n - 0xdc00)) :: s)
    else none

end Spelling

def Spelling.text? (p : Spelling) : Option Text := Spelling.join none p []

inductive Token where
  | openArray
  | closeArray
  | openObject
  | closeObject
  | comma
  | colon
  | null
  | bool (b : Bool)
  | number (n : Numeral)
  | string (s : Spelling)
  deriving DecidableEq, Repr

namespace Token

def isBlank (c : Char) : Bool := c == ' ' || c == '\t' || c == '\n' || c == '\r'

/-- Where a string scanner stands: `hex left n` has read the value `n` and needs `left` digits. -/
inductive Phase where
  | plain
  | escape
  | hex (left : Nat) (n : Nat)

def escaped? (c : Char) : Option Char :=
  match c with
  | '"' => some '"'
  | '\\' => some '\\'
  | '/' => some '/'
  | 'b' => some '\x08'
  | 'f' => some '\x0c'
  | 'n' => some '\n'
  | 'r' => some '\r'
  | 't' => some '\t'
  | _ => none

def hexDigit? (c : Char) : Option Nat :=
  if '0' ≤ c && c ≤ '9' then some (c.toNat - '0'.toNat)
  else if 'a' ≤ c && c ≤ 'f' then some (c.toNat - 'a'.toNat + 10)
  else if 'A' ≤ c && c ≤ 'F' then some (c.toNat - 'A'.toNat + 10)
  else none

def scanString : Phase → Text → Spelling → Option (Spelling × Text)
  | _, [], _ => none
  | .plain, c :: rest, p =>
    if c = '"' then some (p.reverse, rest)
    else if c = '\\' then scanString .escape rest p
    else if c < ' ' then none
    else scanString .plain rest (.char c :: p)
  | .escape, c :: rest, p =>
    if c = 'u' then scanString (.hex 4 0) rest p
    else match escaped? c with
      | none => none
      | some d => scanString .plain rest (.char d :: p)
  | .hex left n, c :: rest, p =>
    match hexDigit? c with
    | none => none
    | some d =>
      if left ≤ 1 then scanString .plain rest (.unit (16 * n + d) :: p)
      else scanString (.hex (left - 1) (16 * n + d)) rest p

theorem length_scanString_le {phase : Phase} {s rest : Text} {p q : Spelling}
    (h : scanString phase s p = some (q, rest)) : rest.length ≤ s.length := by
  induction s generalizing phase p with
  | nil => cases phase <;> simp [scanString] at h
  | cons c t ih =>
    have step : ∀ {phase p}, scanString phase t p = some (q, rest) → rest.length ≤ t.length + 1 :=
      fun h => Nat.le_succ_of_le (ih h)
    simp only [List.length_cons]
    cases phase with
    | plain =>
      simp only [scanString] at h
      split at h
      · cases h
        exact Nat.le_succ _
      · split at h
        · exact step h
        · split at h
          · cases h
          · exact step h
    | escape =>
      simp only [scanString] at h
      split at h
      · exact step h
      · split at h
        · cases h
        · exact step h
    | hex left n =>
      simp only [scanString] at h
      split at h
      · cases h
      · split at h <;> exact step h

def keyword? (word : Text) (t : Token) (s : Text) : Option (Token × Text) :=
  if word.isPrefixOf s then some (t, s.drop word.length) else none

def next? (c : Char) (rest : Text) : Option (Token × Text) :=
  match c with
  | '[' => some (openArray, rest)
  | ']' => some (closeArray, rest)
  | '\x7b' => some (openObject, rest)
  | '\x7d' => some (closeObject, rest)
  | ',' => some (comma, rest)
  | ':' => some (colon, rest)
  | '"' => (scanString .plain rest []).map fun (s, rest) => (string s, rest)
  | 'n' => keyword? "ull" null rest
  | 't' => keyword? "rue" (bool true) rest
  | 'f' => keyword? "alse" (bool false) rest
  | _ => (Numeral.scan? (c :: rest)).map fun (n, rest) => (number n, rest)

theorem length_keyword?_le {word s rest : Text} {t u : Token}
    (h : keyword? word t s = some (u, rest)) : rest.length ≤ s.length := by
  unfold keyword? at h
  split at h
  · cases h
    simp
  · cases h

theorem length_next?_le {c : Char} {s rest : Text} {t : Token} (h : next? c s = some (t, rest)) :
    rest.length ≤ s.length := by
  unfold next? at h
  split at h
  case h_7 =>
    obtain ⟨⟨_, _⟩, hs, h⟩ := Option.map_eq_some_iff.1 h
    cases h
    exact length_scanString_le hs
  case h_8 | h_9 | h_10 => exact length_keyword?_le h
  case h_11 =>
    obtain ⟨⟨_, _⟩, hs, h⟩ := Option.map_eq_some_iff.1 h
    cases h
    exact Nat.lt_succ_iff.1 (Numeral.length_scan?_lt hs)
  all_goals
    cases h
    exact Nat.le_refl _

def scanFrom (ts : List Token) : Text → Option (List Token)
  | [] => some ts.reverse
  | c :: rest =>
    if isBlank c then scanFrom ts rest
    else match _h : next? c rest with
      | none => none
      | some (t, rest') => scanFrom (t :: ts) rest'
  termination_by s => s.length
  decreasing_by
    · simp
    · have := length_next?_le _h
      simp only [List.length_cons]
      omega

def scan (s : Text) : Option (List Token) := scanFrom [] s

end Token

end TemplateServer.Json
