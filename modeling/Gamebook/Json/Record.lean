import Gamebook.Json.Draft
import Gamebook.Json.Print
import Gamebook.Text.Position
import Gamebook.Text.Quoted

/-! Records read from a draft, in the order of the text: the first thing wrong is what is reported. A
record is an object with named members, or an array with its fields in order; members without a
field are passed over. -/
namespace Gamebook.Json

inductive Shape
  | null
  | bool (b : Bool)
  | number (n : Number)
  | text (s : String)
  | sequence
  | map
  deriving DecidableEq

def Shape.describe : Shape → String
  | null => "null"
  | bool b => "boolean `" ++ (if b then "true" else "false") ++ "`"
  | number (.real x) => "floating point `" ++ floatText x ++ "`"
  | number n => "integer `" ++ n.text ++ "`"
  | text s => "string " ++ Text.quoted s
  | sequence => "sequence"
  | map => "map"

inductive Misfit
  | broken
  | mismatch (found : Shape) (expected : String)
  | missing (field : String)
  | repeated (field : String)
  | tooShort (length : Nat) (expected : String)
  | tooLong (length : Nat)
  deriving DecidableEq

def Misfit.message : Misfit → String
  | broken => "invalid JSON"
  | mismatch found expected => "invalid type: " ++ found.describe ++ ", expected " ++ expected
  | missing field => "missing field `" ++ field ++ "`"
  | repeated field => "duplicate field `" ++ field ++ "`"
  | tooShort n expected => "invalid length " ++ toString n ++ ", expected " ++ expected
  | tooLong n => "invalid length " ++ toString n ++ ", expected fewer elements in array"

structure Complaint where
  misfit : Misfit
  spot : Spot

def Spot.position (s : String) (spot : Spot) : Text.Position :=
  .behind (s.toList.take (s.toList.length - spot.length))

def Complaint.message (s : String) : Complaint → String
  | ⟨.broken, _⟩ => Misfit.broken.message
  | ⟨m, spot⟩ => m.message ++ " at " ++ (Spot.position s spot).describe

def Value.shape : Value → Shape
  | .null => .null
  | .bool b => .bool b
  | .number n => .number n
  | .string s => .text s
  | .array _ => .sequence
  | .object _ => .map

namespace Draft

/-- A bracket is taken for its kind before anything behind it is read. -/
def shape? : Draft → Option Shape
  | broken => none
  | null => some .null
  | bool b => some (.bool b)
  | number n => n.value?.map .number
  | string text => text.map .text
  | array _ _ => some .sequence
  | object _ _ => some .map

def mismatch (expected : String) : Placed → Complaint
  | (d, spot) =>
    match d.shape? with
    | some found => ⟨.mismatch found expected, spot⟩
    | none => ⟨.broken, spot⟩

def readTextAs (expected : String) : Placed → Except Complaint String
  | (string (some s), _) => .ok s
  | d => .error (mismatch expected d)

def readText : Placed → Except Complaint String := readTextAs "a string"
def readPath : Placed → Except Complaint String := readTextAs "path string"

def readBool : Placed → Except Complaint Bool
  | (bool b, _) => .ok b
  | d => .error (mismatch "a boolean" d)

structure FieldReader (ρ : Type) where
  name : String
  read : Placed → ρ → Except Complaint ρ

variable {ρ α : Type}

/-- Null leaves something out that may be left out. -/
def readOptional (read : Placed → Except Complaint α) : Placed → Except Complaint (Option α)
  | (null, _) => .ok none
  | d => (read d).map some

def finish (closed : Bool) (r : ρ) : Except Complaint ρ :=
  if closed then .ok r else .error ⟨.broken, []⟩

/-- Elements fill the fields from the first on; more elements than fields break the text. -/
def readElements : List (FieldReader ρ) → List Placed → Bool → ρ → Except Complaint ρ
  | _, [], closed, r => finish closed r
  | [], (_, spot) :: _, _, _ => .error ⟨.broken, spot⟩
  | field :: fields, d :: ds, closed, r => do
    readElements fields ds closed (← field.read d r)

/-- The name of a member of a record must mean a text. -/
def readName (title : Title) : Except Complaint String :=
  match title.name? with
  | some name => .ok name
  | none => .error ⟨.broken, title.spot⟩

/-- A name that was seen before is refused before its value is looked at. -/
def readMembersInto (fields : List (FieldReader ρ)) :
    List String → List (Title × Placed) → Bool → ρ → Except Complaint ρ
  | _, [], closed, r => finish closed r
  | seen, (title, d) :: ds, closed, r => do
    let name ← readName title
    match fields.find? fun field => field.name = name with
    | none => readMembersInto fields seen ds closed r
    | some field =>
      if name ∈ seen then .error ⟨.repeated name, title.spot⟩
      else readMembersInto fields (name :: seen) ds closed (← field.read d r)

/-- Reads a record called `name`; fields that are not given keep what they have in `r`. -/
def readRecord (name : String) (fields : List (FieldReader ρ)) (r : ρ) : Placed → Except Complaint ρ
  | (array items closed, _) => readElements fields items closed r
  | (object members closed, _) => readMembersInto fields [] members closed r
  | d => .error (mismatch ("struct " ++ name) d)

/-- Of a repeated name the last value counts. -/
def readMapInto (read : Placed → Except Complaint α) :
    List (Title × Placed) → Bool → Table String α → Except Complaint (Table String α)
  | [], closed, t => finish closed t
  | (title, d) :: ds, closed, t => do
    let name ← readName title
    readMapInto read ds closed (t.put name (← read d))

def readMap (read : Placed → Except Complaint α) : Placed → Except Complaint (Table String α)
  | (object members closed, _) => readMapInto read members closed []
  | d => .error (mismatch "a map" d)

def readWhole (read : Placed → Except Complaint ρ) (s : String) : Except Complaint ρ := do
  let (d, ended) := ofText s
  finish ended (← read d)

end Draft
end Gamebook.Json
