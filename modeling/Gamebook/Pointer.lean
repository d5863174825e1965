import Gamebook.Navigation
import Gamebook.Text.LowerCase

/-! Pointer events on the regions of the active screen. Only a pointer that is lifted or clicks does
anything. The one action known is to go to a screen; it needs an argument that is not blank. -/
namespace Gamebook

inductive PointerKind
  | down
  | up
  | click
  deriving DecidableEq, Repr

inductive PointerOutcome
  | ignored
  | navigated (screen : Option ScreenId)
  | unhandled (action : String) (arg : Option String)
  deriving DecidableEq, Repr

/-- A pointer event that met a region is used up. -/
def PointerOutcome.prevented (o : PointerOutcome) : Bool := o ≠ .ignored

namespace Stage.Region

/-- The action in lower case; none is the empty one. -/
def verb (r : Region) : String := Text.lower (Text.trim (r.action.getD ""))

def object? (r : Region) : Option String := r.arg.bind Text.trimmed?

end Stage.Region

namespace Navigation

def goVerb : String := "go"

def perform (c : NavigationSettings) (region : Stage.Region) :
    Act (Staged Navigation) (Progress Fitting PointerOutcome) :=
  match if region.verb = goVerb then region.object? else none with
  | some target => do return (← follow c target).map id .navigated
  | none => do
    Act.give (.unhandledAction region.verb region.object?)
    return .done (.unhandled region.verb region.object?)

def target? (stage : Stage) (kind : PointerKind) (p : Stage.Point) : Option Stage.Region :=
  match kind with
  | .down => none
  | _ => stage.regionAt? p

def dispatch (c : NavigationSettings) (kind : PointerKind) (p : Stage.Point) :
    Act (Staged Navigation) (Progress Fitting PointerOutcome) := do
  match target? (← Act.get).stage kind p with
  | none => return .done .ignored
  | some region => perform c region

end Navigation
end Gamebook
