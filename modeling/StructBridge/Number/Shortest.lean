import StructBridge.Number.Binary64

/-!
The decimal text of a binary64 number: the fewest digits that read back as the number and, among
those, the nearest. `Layout` holds where the decimal point may stand without an exponent.
-/
namespace StructBridge.Binary64

/-- The reals that round to `m * 2 ^ q`, in quarters of `2 ^ q`. The ends belong to it when `m` is
even; just above a power of two the lower half step is the shorter one. -/
structure Interval where
  low : Nat
  value : Nat
  high : Nat
  closed : Bool

def intervalOf (m : Nat) (q : Int) : Interval :=
  ⟨4 * m - (if m = Nat.pow 2 52 ∧ leastExponent < q then 1 else 2), 4 * m, 4 * m + 2, m % 2 == 0⟩

/-- A power with an integer exponent, as numerator and denominator. -/
def powFraction (base : Nat) (e : Int) : Nat × Nat :=
  if e < 0 then (1, Nat.pow base (-e).toNat) else (Nat.pow base e.toNat, 1)

/-- One grid of decimals `c * 10 ^ place` beside the quarters of `2 ^ q`: `c * grid` and
`x * quarter` are counts of one common unit. -/
structure Grid where
  place : Int
  grid : Nat
  quarter : Nat

def gridAt (q place : Int) : Grid :=
  let (a, b) := powFraction 2 (q - 2)
  let (n, d) := powFraction 10 place
  ⟨place, n * b, a * d⟩

def Interval.holds (i : Interval) (g : Grid) (c : Nat) : Bool :=
  let x := c * g.grid
  if i.closed then i.low * g.quarter ≤ x ∧ x ≤ i.high * g.quarter
  else i.low * g.quarter < x ∧ x < i.high * g.quarter

/-- The nearest decimal of the grid that reads back, if either neighbour of the value does. -/
def Interval.nearestOn? (i : Interval) (g : Grid) : Option Nat :=
  let v := i.value * g.quarter
  let c := v / g.grid
  let below := v - c * g.grid
  let above := (c + 1) * g.grid - v
  match i.holds g c, i.holds g (c + 1) with
  | true, true => some (if below < above ∨ (below = above ∧ c % 2 = 0) then c else c + 1)
  | true, false => some c
  | false, true => some (c + 1)
  | false, false => none

/-- The least place `e` with `m * 2 ^ q < 10 ^ e`, searched upwards from an estimate below it. -/
def magnitude (m : Nat) (q : Int) : Int :=
  let start := ((m.log2 : Int) + q) * 30103 / 100000 - 1
  let holds (k : Nat) : Bool :=
    let g := gridAt q (start + k)
    4 * m * g.quarter < g.grid
  start + ((List.range 5).find? holds).getD 5

/-- Digits and place of the shortest decimal `c * 10 ^ place` that reads back as `m * 2 ^ q`. -/
def shortest (m : Nat) (q : Int) : Nat × Int :=
  let top := magnitude m q
  let i := intervalOf m q
  let at? (n : Nat) : Option (Nat × Int) :=
    let g := gridAt q (top - (n + 1))
    (i.nearestOn? g).map (·, g.place)
  ((List.range 17).findSome? at?).getD (m, q)

structure Layout where
  positionalAbove : Int
  positionalUpTo : Int
  exponentWidth : Nat

/-- The point stands among the digits from four places before them to sixteen places after their
start; beyond, an exponent of two digits or more with its sign is written. -/
def layout : Layout := ⟨-4, 16, 2⟩

def zeros (n : Nat) : List Char := List.replicate n '0'

def dropTrailingZeros (ds : List Char) : List Char :=
  (ds.reverse.dropWhile (· == '0')).reverse

/-- Digits whose decimal point stands `point` places after their start. -/
def layOut (l : Layout) (ds : List Char) (point : Int) : List Char :=
  if l.positionalAbove < point ∧ point ≤ l.positionalUpTo then
    if point ≤ 0 then ['0', '.'] ++ zeros (-point).toNat ++ ds
    else
      let whole := ds.take point.toNat
      let rest := ds.drop point.toNat
      whole ++ zeros (point.toNat - whole.length) ++ ['.'] ++ (if rest.isEmpty then ['0'] else rest)
  else
    let e := point - 1
    let digits := Nat.toDigits 10 e.natAbs
    ds.take 1 ++ (if ds.length ≤ 1 then [] else '.' :: ds.drop 1) ++
      ['e', if e < 0 then '-' else '+'] ++ zeros (l.exponentWidth - digits.length) ++ digits

def text : Binary64 → String
  | nan => "nan"
  | infinite negative => if negative then "-inf" else "inf"
  | finite negative m q =>
    let body := if m = 0 then ['0', '.', '0'] else
      let (c, place) := shortest m q
      let ds := Nat.toDigits 10 c
      layOut layout (dropTrailingZeros ds) (ds.length + place)
    String.ofList (if negative then '-' :: body else body)

example : text (ofDecimal true 5 2) = "-500.0" ∧
    text (ofDecimal false 1 15) = "1000000000000000.0" ∧ text (ofDecimal false 1 16) = "1e+16" ∧
    text (ofDecimal false 1 (-4)) = "0.0001" ∧ text (ofDecimal false 1 (-5)) = "1e-05" ∧
    text (ofDecimal false 5 (-324)) = "5e-324" ∧
    text (ofDecimal false 30000000000000004 (-17)) = "0.30000000000000004" := by
  decide +kernel

end StructBridge.Binary64
