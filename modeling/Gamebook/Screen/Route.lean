import Gamebook.Screen.Registry
import Gamebook.Settings

/-! Where a navigation is to go: a screen by its name, or the screen of a kind that was shown last.
A route is open only if it leads to a screen of the registry. -/
namespace Gamebook.Screen

inductive Route
  | screen (id : ScreenId)
  | lastLibrary
  | lastStory
  deriving DecidableEq, Repr

namespace Route

/-- An alias wins over a screen of the same name. -/
def ofText (aliases : AliasNames) (raw : String) : Route :=
  let raw := Text.trim raw
  if raw = aliases.lastLibrary then .lastLibrary
  else if raw = aliases.lastStory then .lastStory
  else .screen ⟨raw⟩

def describe : Route → String
  | screen id => id.text
  | lastLibrary => "<last library>"
  | lastStory => "<last story>"

end Route

structure Memory where
  lastLibrary : Option ScreenId := none
  lastStory : Option ScreenId := none
  deriving DecidableEq, Repr

inductive Refusal
  | notLoaded
  | unknownScreen (id : ScreenId)
  | unresolved (route : Route)
  deriving DecidableEq, Repr

def Refusal.message : Refusal → String
  | notLoaded => "navigation requested before the registry was loaded"
  | unknownScreen id => "unknown screen: " ++ id.text
  | unresolved route => "alias " ++ route.describe ++ " has no remembered screen"

namespace Memory

/-- The screen that a route names, known or not. -/
def lookUp? (m : Memory) : Route → Option ScreenId
  | .screen id => some id
  | .lastLibrary => m.lastLibrary
  | .lastStory => m.lastStory

def resolve (m : Memory) (route : Route) (registry : Registry) : Except Refusal ScreenId :=
  match m.lookUp? route with
  | none => .error (.unresolved route)
  | some id => if registry.contains id then .ok id else .error (.unknownScreen id)

/-- A screen may be of both kinds. -/
def note (c : NavigationSettings) (m : Memory) (screen : ScreenId) : Memory where
  lastLibrary := if c.isLibraryScreen screen then some screen else m.lastLibrary
  lastStory := if c.isStoryScreen screen then some screen else m.lastStory

theorem resolve_eq_ok_iff (m : Memory) (route : Route) (registry : Registry) (id : ScreenId) :
    m.resolve route registry = .ok id ↔ m.lookUp? route = some id ∧ registry.contains id = true := by
  unfold resolve
  cases m.lookUp? route with
  | none => simp
  | some j =>
    simp only
    split
    · rename_i h
      constructor
      · intro hj; cases hj; exact ⟨rfl, h⟩
      · rintro ⟨hj, -⟩; cases hj; rfl
    · rename_i h
      constructor
      · intro hj; cases hj
      · rintro ⟨hj, hc⟩; cases hj; exact absurd hc h

end Memory
end Gamebook.Screen
