import Gamebook.Decimal.Shortest
import Gamebook.Json.Body
import Gamebook.Json.Value

/-! The written forms of JSON values. -/
namespace Gamebook.Json

/-- A power of ten from `-5` to `15` is written out, with at least one digit on either side of the
point; any other is marked by `e`, with a sign in front of it. -/
def realText (ds : List Char) (e : Int) : List Char :=
  if -5 ≤ e ∧ e < 0 then
    ['0', '.'] ++ List.replicate ((-e).toNat - 1) '0' ++ ds
  else if 0 ≤ e ∧ e ≤ 15 then
    let n := e.toNat + 1
    if ds.length ≤ n then ds ++ List.replicate (n - ds.length) '0' ++ ['.', '0']
    else ds.take n ++ '.' :: ds.drop n
  else
    let head := match ds with
      | d :: rest@(_ :: _) => d :: '.' :: rest
      | ds => ds
    head ++ 'e' :: (if e < 0 then '-' else '+') :: (toString e.natAbs).toList

open Float.Model in
/-- The text of a finite double; zero has no digits of its own. -/
def floatText (x : Float) : String :=
  match UnpackedFloat.unpack Format.binary64 x.toBits.toBitVec with
  | .finite sign mantissa exponent _ =>
    let (ds, e) := (Decimal.shortest mantissa exponent).digits
    (if sign matches .negative then "-" else "") ++ String.ofList (realText ds e)
  | .zero sign => if sign matches .negative then "-0.0" else "0.0"
  | _ => "null"

def Number.text : Number → String
  | natural n => toString n
  | negative n => "-" ++ toString n
  | real x => floatText x

namespace Value

/-- The text of a string, a number or a truth value. -/
def scalar? : Value → Option String
  | string s => some s
  | number n => some n.text
  | bool b => some (if b then "true" else "false")
  | _ => none

mutual

def compact : Value → List Char
  | null => ['n', 'u', 'l', 'l']
  | bool true => ['t', 'r', 'u', 'e']
  | bool false => ['f', 'a', 'l', 's', 'e']
  | number n => n.text.toList
  | string s => Body.write s.toList
  | array items => '[' :: compactItems items ++ [']']
  | object fields => '\x7b' :: compactFields fields ++ ['\x7d']

def compactItems : List Value → List Char
  | [] => []
  | [v] => compact v
  | v :: vs => compact v ++ ',' :: compactItems vs

def compactFields : List (String × Value) → List Char
  | [] => []
  | [(name, v)] => Body.write name.toList ++ ':' :: compact v
  | (name, v) :: vs => Body.write name.toList ++ ':' :: compact v ++ ',' :: compactFields vs

end

def text (v : Value) : String := String.ofList (compact v)

end Value
end Gamebook.Json
