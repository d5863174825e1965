import Gamebook.Table
import Gamebook.Text.Blank

/-! JSON values as documents hold them. The fields of an object stand in the order in which their
names first appeared, each with its last value. -/
namespace Gamebook.Json

/-- Whole numbers of 64 bits are exact, all others are doubles. -/
inductive Number
  | natural (n : Nat)
  | negative (n : Nat)
  | real (x : Float)
  deriving DecidableEq

inductive Value
  | null
  | bool (b : Bool)
  | number (n : Number)
  | string (s : String)
  | array (items : List Value)
  | object (fields : List (String × Value))

namespace Number

/-- The nearest double; `negative n` stands for `-n`. -/
def toFloat : Number → Float
  | natural n => n.toUInt64.toFloat
  | negative n => -n.toUInt64.toFloat
  | real x => x

end Number

namespace Value

def fields? : Value → Option (List (String × Value))
  | object fields => some fields
  | _ => none

def items? : Value → Option (List Value)
  | array items => some items
  | _ => none

def text? : Value → Option String
  | string s => some s
  | _ => none

def field? (v : Value) (name : String) : Option Value :=
  v.fields?.bind fun fields => Table.get? fields name

/-- Null and blank strings fill no field; anything else does, an empty array too. -/
def isFilled : Value → Bool
  | null => false
  | string s => !Text.blank s
  | _ => true

/-- The value of the first filled field among `names`, in the order of `names`. -/
def firstFilled? (v : Value) (names : List String) : Option Value :=
  (names.filterMap v.field?).find? isFilled

end Value
end Gamebook.Json
