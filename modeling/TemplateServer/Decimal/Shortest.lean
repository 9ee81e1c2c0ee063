import TemplateServer.Decimal.Binary64
import TemplateServer.Text.Basic

/-! The shortest decimal that reads back as a given double, and its layout. -/

namespace TemplateServer

structure Decimal where
  digits : Nat
  power : Int
  deriving DecidableEq, Repr

namespace Decimal

def sides (d : Nat) (k : Int) (x : Nat) (p : Int) : Nat × Nat :=
  ((d * Nat.pow 10 k.toNat) <<< (-p).toNat, x <<< p.toNat * Nat.pow 10 (-k).toNat)

/-- The interval of the reals that round to `m * 2 ^ q`, in units of a quarter of the last place;
its ends belong to it when `m` is even. -/
structure Interval where
  low : Nat
  mid : Nat
  high : Nat
  power : Int
  closed : Bool

namespace Interval

def around (x : Binary64) : Interval :=
  let m := x.mantissa
  -- below a power of two the neighbour is twice as near, except among the subnormal numbers
  let step := if m = 1 <<< 52 ∧ 1 < x.biased then 1 else 2
  ⟨4 * m - step, 4 * m, 4 * m + 2, x.exponent - 2, m % 2 == 0⟩

def contains (i : Interval) (d : Nat) (k : Int) : Bool :=
  let low := sides d k i.low i.power
  let high := sides d k i.high i.power
  if i.closed then low.2 ≤ low.1 && high.1 ≤ high.2 else low.2 < low.1 && high.1 < high.2

def leading (i : Interval) : Int :=
  let s := sides 1 (-400) i.mid i.power
  (Nat.toDigits 10 (s.2 / s.1)).length - 401

def floor (i : Interval) (k : Int) : Nat :=
  let s := sides 1 k i.mid i.power
  s.2 / s.1

def onGrid? (i : Interval) (k : Int) : Option Decimal :=
  let d := i.floor k
  match i.contains d k, i.contains (d + 1) k with
  | true, true =>
    let s := sides (2 * d + 1) k (2 * i.mid) i.power
    some ⟨if s.2 < s.1 || (s.2 == s.1 && d % 2 == 0) then d else d + 1, k⟩
  | true, false => some ⟨d, k⟩
  | false, true => some ⟨d + 1, k⟩
  | false, false => none

end Interval

/-- The coarsest grid that meets the interval gives the fewest digits; seventeen always do. -/
def shortest (x : Binary64) : Decimal :=
  let i := Interval.around x
  let top := i.leading
  ((List.range 17).findSome? fun (n : Nat) => i.onGrid? (top - n)).getD
    ⟨i.floor (top - 16), top - 16⟩

def dropZeros (digits : Text) : Text := (digits.reverse.dropWhile (· == '0')).reverse

structure Layout where
  least : Int
  most : Int

def layout : Layout := ⟨-4, 16⟩

def zeros (n : Int) : Text := List.replicate n.toNat '0'

def exponentText (e : Int) : Text := (if 0 ≤ e then '+' else '-') :: Text.ofNat e.natAbs

def magnitudeText (d : Decimal) : Text :=
  let written := Text.ofNat d.digits
  let digits := dropZeros written
  let point : Int := written.length + d.power
  if layout.least ≤ point ∧ point ≤ layout.most then
    if point ≤ 0 then "0." ++ zeros (-point) ++ digits
    else if digits.length ≤ point then digits ++ zeros (point - digits.length) ++ ".0"
    else digits.take point.toNat ++ "." ++ digits.drop point.toNat
  else
    digits.take 1 ++ (if digits.length = 1 then [] else '.' :: digits.drop 1) ++
      'e' :: exponentText (point - 1)

end Decimal

def Binary64.text (x : Binary64) : Text :=
  let magnitude : Text := if x.isZero then "0.0" else (Decimal.shortest x).magnitudeText
  if x.isNegative then '-' :: magnitude else magnitude

end TemplateServer
