import TemplateServer.Json.Basic

namespace TemplateServer.Json

structure Numeral where
  negative : Bool
  whole : Text
  fraction : Text
  exponent : Option (Bool × Text)
  deriving DecidableEq, Repr

namespace Numeral

def wholeOk (digits : Text) : Bool :=
  match digits with
  | [] => false
  | c :: rest => c != '0' || rest.isEmpty

def scanSign (s : Text) : Bool × Text :=
  match s with
  | '-' :: rest => (true, rest)
  | _ => (false, s)

def scanFraction? (s : Text) : Option (Text × Text) :=
  match s with
  | '.' :: rest =>
    let digits := rest.takeWhile Char.isDigit
    if digits.isEmpty then none else some (digits, rest.dropWhile Char.isDigit)
  | _ => some ([], s)

def scanExponentSign (s : Text) : Bool × Text :=
  match s with
  | '-' :: rest => (true, rest)
  | '+' :: rest => (false, rest)
  | _ => (false, s)

def scanExponent? (s : Text) : Option (Option (Bool × Text) × Text) :=
  match s with
  | [] => some (none, s)
  | c :: rest =>
    if c = 'e' ∨ c = 'E' then
      let (negative, rest) := scanExponentSign rest
      let digits := rest.takeWhile Char.isDigit
      if digits.isEmpty then none
      else some (some (negative, digits), rest.dropWhile Char.isDigit)
    else some (none, s)

def scan? (s : Text) : Option (Numeral × Text) :=
  let (negative, s) := scanSign s
  let whole := s.takeWhile Char.isDigit
  if wholeOk whole then do
    let (fraction, s) ← scanFraction? (s.dropWhile Char.isDigit)
    let (exponent, s) ← scanExponent? s
    return (⟨negative, whole, fraction, exponent⟩, s)
  else none

theorem length_dropWhile_le (p : Char → Bool) (s : Text) : (s.dropWhile p).length ≤ s.length :=
  (List.dropWhile_sublist p).length_le

theorem length_scanSign_le (s : Text) : (scanSign s).2.length ≤ s.length := by
  unfold scanSign
  split <;> simp

theorem length_scanExponentSign_le (s : Text) : (scanExponentSign s).2.length ≤ s.length := by
  unfold scanExponentSign
  split <;> simp

theorem length_scanFraction?_le {s digits rest : Text} (h : scanFraction? s = some (digits, rest)) :
    rest.length ≤ s.length := by
  unfold scanFraction? at h
  split at h
  · rename_i r
    simp only at h
    split at h
    · cases h
    · cases h
      have := length_dropWhile_le Char.isDigit r
      simp only [List.length_cons]
      omega
  · cases h
    exact Nat.le_refl _

theorem length_scanExponent?_le {s rest : Text} {e : Option (Bool × Text)}
    (h : scanExponent? s = some (e, rest)) : rest.length ≤ s.length := by
  unfold scanExponent? at h
  split at h
  · cases h
    exact Nat.le_refl _
  · rename_i c r
    split at h
    · simp only at h
      split at h
      · cases h
      · cases h
        have := length_dropWhile_le Char.isDigit (scanExponentSign r).2
        have := length_scanExponentSign_le r
        simp only [List.length_cons]
        omega
    · cases h
      exact Nat.le_refl _

theorem length_scan?_lt {s rest : Text} {n : Numeral} (h : scan? s = some (n, rest)) :
    rest.length < s.length := by
  unfold scan? at h
  simp only at h
  split at h
  · rename_i hw
    obtain ⟨⟨f, r⟩, hf, h⟩ := Option.bind_eq_some_iff.1 h
    obtain ⟨⟨e, r'⟩, he, h⟩ := Option.bind_eq_some_iff.1 h
    cases h
    have h1 : r'.length ≤ r.length := length_scanExponent?_le he
    have h2 := length_scanFraction?_le hf
    have h3 := length_scanSign_le s
    have h4 := congrArg List.length
      (List.takeWhile_append_dropWhile (p := Char.isDigit) (l := (scanSign s).2))
    have h5 : 0 < ((scanSign s).2.takeWhile Char.isDigit).length := by
      cases ht : (scanSign s).2.takeWhile Char.isDigit with
      | nil => simp [ht, wholeOk] at hw
      | cons c t => simp
    simp only [List.length_append] at h4
    show r'.length < s.length
    omega
  · cases h

def gather : Nat → Text → Nat × Text
  | n, [] => (n, [])
  | n, c :: rest =>
    let m := Nat.ofDigitChars 10 [c] n
    if m < UInt64.size then gather m rest else (n, c :: rest)

def power? (n : Numeral) : Option Int :=
  match n.exponent with
  | none => some 0
  | some (negative, digits) =>
    let e := Text.digitsValue digits
    if e < 0x80000000 then some (if negative then -e else e) else none

def signed (negative : Bool) (x : Binary64) : Binary64 := if negative then x.neg else x

/-- The double of a number that is no integer, or too long for one: whole digits that no longer fit
count as zeros, and fraction digits that do not fit are dropped. -/
def double? (n : Numeral) : Option Binary64 :=
  let (significand, dropped) := gather 0 n.whole
  let (significand, unread) := gather significand n.fraction
  let shift : Int := dropped.length - (n.fraction.length - unread.length : Nat)
  let magnitude : Option Binary64 :=
    match n.power? with
    | some power => (Binary64.ofNat significand).scale? (shift + power)
    | none =>
      if significand = 0 ∨ n.exponent.any (·.1) then some Binary64.zero else none
  magnitude.map (signed n.negative)

def value? (n : Numeral) : Option Json :=
  let whole := Text.digitsValue n.whole
  if n.fraction = [] ∧ n.exponent = none ∧ whole < UInt64.size ∧ !n.negative then some (.int whole)
  else if n.fraction = [] ∧ n.exponent = none ∧ 0 < whole ∧ whole ≤ 0x8000000000000000 then
    some (.int (-whole))
  -- this is also where a zero with a sign goes
  else n.double?.map .double

end Numeral

end TemplateServer.Json
