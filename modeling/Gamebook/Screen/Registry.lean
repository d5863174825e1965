import Gamebook.Json.Record
import Gamebook.Name

/-! The registry of screens: the screen to start on, and the resources of each. A registry is decoded
from a document that was read already, in the order of its fields, or straight from a text, which is
laxer about what has no field and stricter about what has; the first bad one is reported. -/
namespace Gamebook.Screen

open Json (Value Misfit Complaint)
open Json.Draft (Placed FieldReader)

structure Entry where
  css : Option Resource := none
  hitboxes : Option Resource := none
  deriving DecidableEq, Repr

structure Registry where
  start : ScreenId
  screens : Table ScreenId Entry
  deriving DecidableEq, Repr

namespace Registry

def entry? (r : Registry) (screen : ScreenId) : Option Entry := r.screens.get? screen
def contains (r : Registry) (screen : ScreenId) : Bool := r.screens.contains screen
def ids (r : Registry) : List ScreenId := r.screens.keys

end Registry

def mismatch (v : Value) (expected : String) : Misfit := .mismatch v.shape expected

def readText : Value → Except Misfit String
  | .string s => .ok s
  | v => .error (mismatch v "a string")

/-- A reference may be left out by writing null. -/
def readResource? : Value → Except Misfit (Option Resource)
  | .null => .ok none
  | v => do return some ⟨← readText v⟩

namespace Entry

def ofFields : List (String × Value) → Entry → Except Misfit Entry
  | [], e => .ok e
  | (name, v) :: rest, e => do
    let e ← if name = "css" then do pure { e with css := ← readResource? v }
      else if name = "hitboxes" then do pure { e with hitboxes := ← readResource? v }
      else pure e
    ofFields rest e

def ofValue : Value → Except Misfit Entry
  | .object fields => ofFields fields {}
  | .array [] => .ok {}
  | .array [css] => do return { css := ← readResource? css }
  | .array (css :: hitboxes :: rest) => do
    let e : Entry := { css := ← readResource? css, hitboxes := ← readResource? hitboxes }
    if rest = [] then return e else throw (.tooLong (rest.length + 2))
  | v => .error (mismatch v "struct ScreenConfig")

def readReference : Placed → Except Complaint (Option Resource) :=
  Json.Draft.readOptional fun d => (Json.Draft.readText d).map Resource.mk

def fields : List (FieldReader Entry) := [
  ⟨"css", fun d e => do return { e with css := ← readReference d }⟩,
  ⟨"hitboxes", fun d e => do return { e with hitboxes := ← readReference d }⟩]

def ofDraft : Placed → Except Complaint Entry := Json.Draft.readRecord "ScreenConfig" fields {}

end Entry

namespace Registry

def readScreensInto : List (String × Value) → Table ScreenId Entry →
    Except Misfit (Table ScreenId Entry)
  | [], screens => .ok screens
  | (name, v) :: rest, screens => do
    readScreensInto rest (screens.put ⟨name⟩ (← Entry.ofValue v))

def readScreens : Value → Except Misfit (Table ScreenId Entry)
  | .object fields => readScreensInto fields []
  | v => .error (mismatch v "a map")

def ofFields : List (String × Value) → Option String → Option (Table ScreenId Entry) →
    Except Misfit Registry
  | [], some start, some screens => .ok ⟨⟨start⟩, screens⟩
  | [], none, _ => .error (.missing "start_screen")
  | [], some _, none => .error (.missing "screens")
  | (name, v) :: rest, start, screens => do
    if name = "start_screen" then ofFields rest (some (← readText v)) screens
    else if name = "screens" then ofFields rest start (some (← readScreens v))
    else ofFields rest start screens

def expectation : String := "struct ScreenRegistry with 2 elements"

def ofValue : Value → Except Misfit Registry
  | .object fields => ofFields fields none none
  | .array [] => .error (.tooShort 0 expectation)
  | .array [start] => do
    let _ ← readText start
    throw (.tooShort 1 expectation)
  | .array (start :: screens :: rest) => do
    let r : Registry := ⟨⟨← readText start⟩, ← readScreens screens⟩
    if rest = [] then return r else throw (.tooLong (rest.length + 2))
  | v => .error (mismatch v "struct ScreenRegistry")

/-- A registry of which parts may still be missing. -/
structure Partial where
  start : Option ScreenId := none
  screens : Option (Table ScreenId Entry) := none

def fields : List (FieldReader Partial) := [
  ⟨"start_screen", fun d r => do return { r with start := some ⟨← Json.Draft.readText d⟩ }⟩,
  ⟨"screens", fun d r => do
    let screens ← Json.Draft.readMap Entry.ofDraft d
    return { r with screens := some (screens.map fun e => (⟨e.1⟩, e.2)) }⟩]

def complete : Json.Draft → Partial → Except Misfit Registry
  | _, ⟨some start, some screens⟩ => .ok ⟨start, screens⟩
  | .array items _, _ => .error (.tooShort items.length expectation)
  | _, ⟨none, _⟩ => .error (.missing "start_screen")
  | _, ⟨some _, none⟩ => .error (.missing "screens")

def ofDraft (d : Placed) : Except Complaint Registry := do
  (complete d.1 (← Json.Draft.readRecord "ScreenRegistry" fields {} d)).mapError (⟨·, d.2⟩)

def ofText (s : String) : Except Complaint Registry := Json.Draft.readWhole ofDraft s

end Registry
end Gamebook.Screen
