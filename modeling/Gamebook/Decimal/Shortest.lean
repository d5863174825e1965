/-! The shortest decimal that reads back. A positive double is a mantissa times a power of two; the
reals that round to it form an interval around it, which holds its ends exactly when the mantissa
is even. Of the decimals in the interval the one with the fewest digits is taken, of two with
equally many the nearer one, and of two equally near the one with an even last digit. -/
namespace Gamebook.Decimal

structure Scaled where
  coefficient : Nat
  exponent : Int
  deriving DecidableEq, Repr

def digitCount (n : Nat) : Nat := (Nat.toDigits 10 n).length

def power (base : Nat) (e : Int) : Nat × Nat :=
  if 0 ≤ e then (Nat.pow base e.toNat, 1) else (1, Nat.pow base (-e).toNat)

def leadingPower (mantissa : Nat) (exponent : Int) : Int :=
  if 0 ≤ exponent then digitCount (mantissa * Nat.pow 2 exponent.toNat) - 1
  else
    let k := (-exponent).toNat
    (digitCount (mantissa * Nat.pow 10 k / Nat.pow 2 k) : Int) - 1 - k

/-- The interval of one double, in quarters of its last place. -/
structure Interval where
  value : Nat
  low : Nat
  high : Nat
  closed : Bool

/-- Below a power of two the doubles lie twice as dense, except at the smallest exponent. -/
def Interval.ofDouble (mantissa : Nat) (exponent : Int) : Interval where
  value := 4 * mantissa
  low := if mantissa = Nat.pow 2 52 ∧ exponent ≠ -1074 then 4 * mantissa - 1 else 4 * mantissa - 2
  high := 4 * mantissa + 2
  closed := mantissa % 2 = 0

/-- The decimal of the grid `10 ^ p` that lies in the interval, if one does. -/
def onGrid (i : Interval) (exponent p : Int) : Option Scaled :=
  let unit := power 2 (exponent - 2)
  let grid := power 10 p
  let x := grid.1 * unit.2
  let y := unit.1 * grid.2
  let inside d := if i.closed then i.low * y ≤ d * x ∧ d * x ≤ i.high * y
    else i.low * y < d * x ∧ d * x < i.high * y
  let d := i.value * y / x
  let below := i.value * y - d * x
  let above := (d + 1) * x - i.value * y
  if inside d ∧ (¬ inside (d + 1) ∨ below < above ∨ (below = above ∧ d % 2 = 0)) then some ⟨d, p⟩
  else if inside (d + 1) then some ⟨d + 1, p⟩
  else none

/-- Every dyadic number is a decimal, as `2 ^ -k = 5 ^ k · 10 ^ -k`. -/
def exact (mantissa : Nat) (exponent : Int) : Scaled :=
  if 0 ≤ exponent then ⟨mantissa * Nat.pow 2 exponent.toNat, 0⟩
  else ⟨mantissa * Nat.pow 5 (-exponent).toNat, exponent⟩

/-- The decimal for `mantissa · 2 ^ exponent`, found on the coarsest grid that holds one. -/
def shortest (mantissa : Nat) (exponent : Int) : Scaled :=
  let i := Interval.ofDouble mantissa exponent
  let top := leadingPower mantissa exponent
  match (List.range 17).findSome? fun (n : Nat) => onGrid i exponent (top - n) with
  | some d => d
  | none => exact mantissa exponent

def Scaled.digits (d : Scaled) : List Char × Int :=
  let all := Nat.toDigits 10 d.coefficient
  ((all.reverse.dropWhile (· = '0')).reverse, d.exponent + all.length - 1)

end Gamebook.Decimal
