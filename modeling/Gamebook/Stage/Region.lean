import Gamebook.Decimal.Single
import Gamebook.Json.Print

/-! Interactive regions of a screen. Boxes are in percent of the screen, in single precision; their
edges belong to them. Regions come from the entries of a hitbox document. -/
namespace Gamebook.Stage

structure Point where
  x : Float32
  y : Float32
  deriving DecidableEq

structure Rect where
  x : Float32
  y : Float32
  w : Float32
  h : Float32
  deriving DecidableEq

namespace Rect

def contains (r : Rect) (p : Point) : Bool :=
  r.x ≤ p.x && p.x ≤ r.x + r.w && r.y ≤ p.y && p.y ≤ r.y + r.h

def center (r : Rect) : Point := ⟨r.x + r.w / 2, r.y + r.h / 2⟩

end Rect

structure Region where
  label : String
  rect : Rect
  action : Option String
  arg : Option String
  deriving DecidableEq

structure Hitbox where
  id : Option String
  rect : Rect
  action : Option String
  arg : Option String
  deriving DecidableEq

namespace Hitbox

open Json (Value)

/-- A number, or a string that writes one; anything else counts as zero. -/
def measure : Option Value → Float32
  | some (.number n) => Decimal.narrow n.toFloat
  | some (.string s) => (Decimal.single? (Text.trimChars s.toList)).getD 0
  | _ => 0

/-- A scalar that is not the empty text. -/
def nonempty? (v : Option Value) : Option String :=
  (v.bind Value.scalar?).filter (· ≠ "")

def ofValue? (v : Value) : Option Hitbox := do
  let _ ← v.fields?
  return {
    id := nonempty? (v.field? "id")
    rect := ⟨measure (v.field? "x"), measure (v.field? "y"), measure (v.field? "w"),
      measure (v.field? "h")⟩
    action := nonempty? (v.field? "action")
    arg := (v.field? "arg").bind Value.scalar? }

/-- The entries of a hitbox document in order; what is no object is passed over. -/
def ofDocument (doc : Value) : List Hitbox :=
  match (doc.field? "hitboxes").bind Value.items? with
  | some items => items.filterMap ofValue?
  | none => []

def region (b : Hitbox) : Region := ⟨b.id.getD "hitbox", b.rect, b.action, b.arg⟩

end Hitbox
end Gamebook.Stage
