/-!
Binary64 numbers as data: a sign, a mantissa and a power of two. `ofDecimal` takes a decimal to the
nearest of them, a tie to the even mantissa; `same` compares values, so the two zeros are one and a
number that is not a number equals itself.
-/
namespace StructBridge

inductive Binary64 where
  | nan
  | infinite (negative : Bool)
  | finite (negative : Bool) (mantissa : Nat) (exponent : Int)
  deriving DecidableEq, Repr

namespace Binary64

/-- The integer nearest to `n / d`, a half to the even neighbour. -/
def roundDiv (n d : Nat) : Nat :=
  let q := n / d
  let r := n % d
  if 2 * r < d ∨ (2 * r = d ∧ q % 2 = 0) then q else q + 1

/-- The fraction `n / d` counted in units of `2 ^ q`, as numerator and denominator. -/
def inUnits (n d : Nat) (q : Int) : Nat × Nat :=
  if q < 0 then (n * Nat.pow 2 (-q).toNat, d) else (n, d * Nat.pow 2 q.toNat)

def leastExponent : Int := -1074
def greatestExponent : Int := 971

/-- The exponent that leaves `n / d` a mantissa of 53 bits, or fewer at the bottom of the range. -/
def exponentFor (n d : Nat) : Int :=
  let low := max ((n.log2 : Int) - d.log2 - 53) leastExponent
  let (a, b) := inUnits n d low
  if Nat.pow 2 53 ≤ a / b then low + 1 else low

def ofFraction (negative : Bool) (n d : Nat) : Binary64 :=
  let q := exponentFor n d
  let (a, b) := inUnits n d q
  let m := roundDiv a b
  let (m, q) := if m = Nat.pow 2 53 then (Nat.pow 2 52, q + 1) else (m, q)
  if greatestExponent < q then infinite negative else finite negative m q

def zero (negative : Bool) : Binary64 := finite negative 0 leastExponent

/-- The number nearest to `digits * 10 ^ exponent`. Exponents beyond four hundred decimal places
are out of range whatever the digits are, so no large power is formed for them. -/
def ofDecimal (negative : Bool) (digits : Nat) (exponent : Int) : Binary64 :=
  if digits = 0 then zero negative
  else if 400 < exponent then infinite negative
  else if exponent + digits.log2 < -400 then zero negative
  else if exponent < 0 then ofFraction negative digits (Nat.pow 10 (-exponent).toNat)
  else ofFraction negative (digits * Nat.pow 10 exponent.toNat) 1

def isZero : Binary64 → Bool
  | finite _ m _ => m == 0
  | _ => false

/-- A signed mantissa counted in units of a smaller power of two. -/
def signedIn (negative : Bool) (m : Nat) (q unit : Int) : Int :=
  let scaled : Int := (m * Nat.pow 2 (q - unit).toNat : Nat)
  if negative then -scaled else scaled

def sameFinite (s : Bool) (m : Nat) (q : Int) (s' : Bool) (m' : Nat) (q' : Int) : Bool :=
  signedIn s m q (min q q') == signedIn s' m' q' (min q q')

def same : Binary64 → Binary64 → Bool
  | nan, nan => true
  | infinite s, infinite s' => s == s'
  | finite s m q, finite s' m' q' => sameFinite s m q s' m' q'
  | _, _ => false

def sameInt : Binary64 → Int → Bool
  | finite s m q, n => sameFinite s m q (decide (n < 0)) n.natAbs 0
  | _, _ => false

example : ofDecimal false 15 (-1) = finite false 6755399441055744 (-52) ∧
    ofDecimal true 5 (-324) = finite true 1 (-1074) ∧ ofDecimal false 2 308 = infinite false ∧
    same (ofDecimal false 10 (-1)) (ofDecimal false 1 0) = true ∧
    sameInt (ofDecimal true 0 0) 0 = true := by
  decide +kernel

end Binary64
end StructBridge
