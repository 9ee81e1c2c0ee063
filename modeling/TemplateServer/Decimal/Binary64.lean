/-! Double-precision numbers as words; each operation rounds the exact result. -/

namespace TemplateServer

structure Binary64 where
  bits : UInt64
  deriving DecidableEq, Repr

namespace Binary64

def isNegative (x : Binary64) : Bool := x.bits >>> 63 == 1

def biased (x : Binary64) : Nat := (x.bits >>> 52 &&& 0x7ff).toNat

def fraction (x : Binary64) : Nat := (x.bits &&& 0xfffffffffffff).toNat

def mantissa (x : Binary64) : Nat := if x.biased = 0 then x.fraction else 1 <<< 52 + x.fraction

def exponent (x : Binary64) : Int := (max x.biased 1 : Nat) - 1075

def isZero (x : Binary64) : Bool := x.mantissa == 0

def zero : Binary64 := ⟨0⟩

def isFinite (x : Binary64) : Bool := x.biased < 0x7ff

def neg (x : Binary64) : Binary64 := ⟨x.bits ^^^ 0x8000000000000000⟩

def ratio (x : Binary64) : Nat × Nat :=
  (x.mantissa <<< x.exponent.toNat, 1 <<< (-x.exponent).toNat)

def roundDiv (num den : Nat) : Nat :=
  let q := num / den
  let twice := 2 * (num % den)
  if twice < den || (twice == den && q % 2 == 0) then q else q + 1

/-- The double nearest to a fraction; one too large for all doubles gives infinity. -/
def ofRatio (num den : Nat) : Binary64 :=
  if num = 0 then zero
  else
    let guess : Int := (num.log2 : Int) - den.log2 - 52
    let fits := den <<< (guess.toNat + 52) ≤ num <<< (-guess).toNat
    let e := max (if fits then guess else guess - 1) (-1074)
    let m := roundDiv (num <<< (-e).toNat) (den <<< e.toNat)
    ⟨UInt64.ofNat (min ((e + 1074).toNat <<< 52 + m) (0x7ff <<< 52))⟩

def mul (x y : Binary64) : Binary64 :=
  ofRatio (x.ratio.1 * y.ratio.1) (x.ratio.2 * y.ratio.2)

def div (x y : Binary64) : Binary64 :=
  ofRatio (x.ratio.1 * y.ratio.2) (x.ratio.2 * y.ratio.1)

def ofNat (n : Nat) : Binary64 := ofRatio n 1

def powerOfTen (n : Nat) : Binary64 := ofNat (Nat.pow 10 n)

/-- A significand times a power of ten, one rounding for each factor a double can hold; none when
the result is too large. -/
def scale? (x : Binary64) (power : Int) : Option Binary64 :=
  if power.natAbs ≤ 308 then
    let y := if 0 ≤ power then x.mul (powerOfTen power.natAbs) else x.div (powerOfTen power.natAbs)
    if y.isFinite then some y else none
  else if x.isZero then some x
  else if 0 ≤ power then none
  else scale? (x.div (powerOfTen 308)) (power + 308)
  termination_by power.natAbs
  decreasing_by omega

end Binary64

end TemplateServer
