/-! Single precision numbers: read from text, and rounded from double precision. Both round to the
nearest, a tie to the even neighbour. -/
namespace Gamebook.Decimal

open Float.Model in
def narrow (x : Float) : Float32 :=
  Float32.ofModel (Float32.Model.pack
    (match UnpackedFloat.unpack Format.binary64 x.toBits.toBitVec with
      | .finite sign mantissa exponent _ =>
        UnpackedFloat.round Format.binary32 sign mantissa exponent
      | other => other))

def ofDigits (cs : List Char) : Nat := cs.foldl (fun n c => 10 * n + (c.toNat - '0'.toNat)) 0

def readSign : List Char → Bool × List Char
  | '-' :: rest => (true, rest)
  | '+' :: rest => (false, rest)
  | cs => (false, cs)

/-- The power of ten that ends a number; none is written for the power zero. -/
def tenPower? : List Char → Option Int
  | [] => some 0
  | c :: rest =>
    let (negative, ds) := readSign rest
    if (c = 'e' ∨ c = 'E') ∧ ds ≠ [] ∧ ds.all Char.isDigit then
      some (if negative then -(ofDigits ds : Int) else ofDigits ds)
    else none

/-- Digits with an optional point and at least one digit, then an optional power of ten. -/
def finite? (cs : List Char) : Option Float32 :=
  let whole := cs.takeWhile Char.isDigit
  let rest := cs.dropWhile Char.isDigit
  let (fraction, rest) := match rest with
    | '.' :: r => (r.takeWhile Char.isDigit, r.dropWhile Char.isDigit)
    | r => ([], r)
  if whole = [] ∧ fraction = [] then none
  else (tenPower? rest).map fun p =>
    let e : Int := p - fraction.length
    Float32.ofScientific (ofDigits (whole ++ fraction)) (e < 0) e.natAbs

/-- The number that a text writes: a decimal, an infinity, or not a number, in any case. -/
def single? (cs : List Char) : Option Float32 :=
  let (negative, body) := readSign cs
  let word := String.ofList (body.map Char.toLower)
  let magnitude :=
    if word = "inf" ∨ word = "infinity" then some (Float32.ofBits 0x7F800000)
    else if word = "nan" then some (Float32.ofBits 0x7FC00000)
    else finite? body
  magnitude.map fun x => if negative then -x else x

/-- A whole number below `2 ^ 64`, with an optional plus sign. -/
def word64? (cs : List Char) : Option Nat :=
  let ds := match cs with
    | '+' :: rest => rest
    | cs => cs
  if ds ≠ [] ∧ ds.all Char.isDigit ∧ ofDigits ds < Nat.pow 2 64 then some (ofDigits ds) else none

end Gamebook.Decimal
