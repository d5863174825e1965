import Gamebook.Decimal.Single
import Gamebook.Json.Value

/-! Numbers as JSON text writes them, and the values they get. A numeral without point and power is a
whole number if it fits 64 bits. Any other is a double made in two steps: the digits that fit a
64-bit significand, then one multiplication or division by a power of ten. -/
namespace Gamebook.Json

structure Numeral where
  negative : Bool
  whole : List Char
  fraction : List Char
  power : Option (Bool × List Char)
  deriving DecidableEq, Repr

namespace Numeral

def span (cs : List Char) : List Char × List Char :=
  (cs.takeWhile Char.isDigit, cs.dropWhile Char.isDigit)

def readFraction : List Char → Option (List Char × List Char)
  | '.' :: cs =>
    let (ds, rest) := span cs
    if ds = [] then none else some (ds, rest)
  | cs => some ([], cs)

def readPower : List Char → Option (Option (Bool × List Char) × List Char)
  | c :: cs =>
    if c = 'e' ∨ c = 'E' then
      let (negative, cs) := Decimal.readSign cs
      let (ds, rest) := span cs
      if ds = [] then none else some (some (negative, ds), rest)
    else some (none, c :: cs)
  | [] => some (none, [])

/-- The numeral at the front of a text; a zero in front of further digits is refused. -/
def read (cs : List Char) : Option (Numeral × List Char) :=
  let (negative, cs) := match cs with
    | '-' :: cs => (true, cs)
    | cs => (false, cs)
  let (whole, cs) := span cs
  if whole = [] ∨ (whole.head? = some '0' ∧ whole.length ≠ 1) then none
  else do
    let (fraction, cs) ← readFraction cs
    let (power, cs) ← readPower cs
    return (⟨negative, whole, fraction, power⟩, cs)

def significandLimit : Nat := Nat.pow 2 64

def digit (c : Char) : Nat := c.toNat - '0'.toNat

/-- Takes digits for as long as they fit; the rest is what did not. -/
def significand : Nat → List Char → Nat × List Char
  | n, [] => (n, [])
  | n, c :: cs =>
    if 10 * n + digit c < significandLimit then significand (10 * n + digit c) cs else (n, c :: cs)

def tenTo (n : Nat) : Float := Float.ofScientific 1 false n

/-- A power of ten beyond the doubles is applied in steps of the greatest one. -/
def scale (x : Float) (e : Int) : Option Float :=
  if 0 ≤ e then
    if e ≤ 308 then
      let y := x * tenTo e.toNat
      if y.isInf then none else some y
    else if x == 0 then some x else none
  else if -308 ≤ e then some (x / tenTo (-e).toNat)
  else if x == 0 then some x
  else scale (x / tenTo 308) (e + 308)
termination_by e.natAbs
decreasing_by omega

def signed (negative : Bool) (x : Float) : Float := if negative then -x else x

/-- The powers of ten that are told apart; a larger one makes zero or is out of range. -/
def powerLimit : Nat := Nat.pow 2 31

def real? (n : Numeral) : Option Float :=
  let (s, dropped) := significand 0 n.whole
  let (s, ignored) := significand s n.fraction
  let e : Int := dropped.length - (n.fraction.length - ignored.length : Nat)
  match n.power with
  | none => (scale s.toUInt64.toFloat e).map (signed n.negative)
  | some (negative, ds) =>
    let p := Decimal.ofDigits ds
    if p < powerLimit then
      (scale s.toUInt64.toFloat (if negative then e - p else e + p)).map (signed n.negative)
    else if s ≠ 0 ∧ !negative then none
    else some (signed n.negative 0)

def value? (n : Numeral) : Option Number :=
  if n.fraction = [] ∧ n.power = none then
    match significand 0 n.whole with
    | (s, []) =>
      if !n.negative then some (.natural s)
      else if 0 < s ∧ s ≤ Nat.pow 2 63 then some (.negative s)
      else some (.real (-s.toUInt64.toFloat))
    | _ => n.real?.map .real
  else n.real?.map .real

end Numeral
end Gamebook.Json
