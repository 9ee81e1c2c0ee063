namespace TemplateServer

abbrev Text := List Char

instance : Coe String Text := ⟨String.toList⟩

namespace Text

def piecesFrom (sep : Char) : Text → Text → List Text → List Text
  | [], piece, done => (piece.reverse :: done).reverse
  | c :: rest, piece, done =>
    if c = sep then piecesFrom sep rest [] (piece.reverse :: done)
    else piecesFrom sep rest (c :: piece) done

def pieces (sep : Char) (s : Text) : List Text := piecesFrom sep s [] []

/-- `skip` characters of an occurrence already replaced are still to be passed over. -/
def replaceFrom (pattern new : Text) : Nat → Text → Text → Text
  | _, [], done => done.reverse
  | skip + 1, _ :: rest, done => replaceFrom pattern new skip rest done
  | 0, c :: rest, done =>
    if pattern.isPrefixOf (c :: rest) then
      replaceFrom pattern new (pattern.length - 1) rest (new.reverse ++ done)
    else replaceFrom pattern new 0 rest (c :: done)

def replaceAll (pattern new s : Text) : Text := replaceFrom pattern new 0 s []

theorem replaceFrom_eq (pattern new : Text) (skip : Nat) (s done : Text) :
    replaceFrom pattern new skip s done = done.reverse ++ replaceFrom pattern new skip s [] := by
  induction s generalizing skip done with
  | nil => cases skip <;> simp [replaceFrom]
  | cons c rest ih =>
    cases skip with
    | succ skip => exact ih skip done
    | zero =>
      simp only [replaceFrom]
      split
      · rw [ih _ (new.reverse ++ done), ih _ (new.reverse ++ [])]
        simp
      · rw [ih 0 (c :: done), ih 0 [c]]
        simp

def ofNat (n : Nat) : Text := Nat.toDigits 10 n

def ofInt : Int → Text
  | .ofNat n => ofNat n
  | .negSucc n => '-' :: ofNat (n + 1)

def digitsValue (digits : Text) : Nat := Nat.ofDigitChars 10 digits 0

theorem digitsValue_ofNat (n : Nat) : digitsValue (ofNat n) = n := Nat.ofDigitChars_ten_toDigits

def nat? (s : Text) : Option Nat :=
  if s ≠ [] ∧ s.all Char.isDigit then some (digitsValue s) else none

end Text

end TemplateServer
