import Gamebook.Name
import Gamebook.Stage.Region
import Gamebook.Table

/-! The stage: one surface for each screen that was ever needed, with its regions and its story
panel. At most one screen is active; each navigation has a generation of its own, by which late
work finds out whether it is still wanted. -/
namespace Gamebook

namespace Stage

/-- One of the choices under a story panel; without a target it cannot be taken. -/
structure Slot where
  label : String
  target : Option NodeId
  deriving DecidableEq

def slotRects : List Rect := [
  ⟨4.36, 70.72, 71.8, 4.7⟩,
  ⟨4.63, 78.14, 71.8, 4.7⟩,
  ⟨4.37, 84.70, 71.8, 4.7⟩,
  ⟨4.36, 91.70, 71.8, 4.7⟩]

def slotCount : Nat := 4

structure Panel where
  story : StoryId
  node : NodeId
  html : String
  paragraphs : List String
  scrollTop : Nat
  slots : List Slot
  deriving DecidableEq

def Panel.slotAt? (panel : Panel) (p : Point) : Option Nat :=
  (slotRects.take panel.slots.length).findIdx? fun r => r.contains p

structure Surface where
  id : ScreenId
  active : Bool := false
  regions : List Region := []
  panel : Option Panel := none
  deriving DecidableEq

end Stage

open Stage

structure Stage where
  surfaces : Table ScreenId Surface := []
  active : Option ScreenId := none
  generation : Nat := 0
  stylesheets : List Resource := []
  fragment : Option ScreenId := none
  scrollLocked : Bool := false
  deriving DecidableEq

namespace Stage

def surface? (s : Stage) (screen : ScreenId) : Option Surface := s.surfaces.get? screen

def adjust (s : Stage) (screen : ScreenId) (f : Surface → Surface) : Stage :=
  { s with surfaces := s.surfaces.adjust screen f }

def ensure (s : Stage) (screen : ScreenId) : Stage :=
  { s with surfaces := s.surfaces.ensure screen { id := screen } }

def activeSurface? (s : Stage) : Option Surface := s.active.bind s.surface?

def deactivateAll (s : Stage) : Stage :=
  { s with
    surfaces := s.surfaces.mapValues fun f => { f with active := false }
    active := none }

/-- Makes a screen the only active one, and the one that the location names. -/
def activate (s : Stage) (screen : ScreenId) : Stage :=
  let s := (s.deactivateAll.ensure screen).adjust screen fun f => { f with active := true }
  { s with active := some screen, fragment := some screen }

def beginNavigation (s : Stage) : Stage := { s with generation := s.generation + 1 }

/-- Whether work begun for a screen in a generation may still change the stage. -/
def isCurrent (s : Stage) (generation : Nat) (screen : ScreenId) : Bool :=
  s.generation = generation && s.active = some screen

def attach (s : Stage) (href : Resource) : Stage :=
  { s with stylesheets := s.stylesheets ++ [href] }

def regions (s : Stage) (screen : ScreenId) : List Region :=
  match s.surface? screen with
  | some f => f.regions
  | none => []

/-- Replaces the regions of a screen; false if it has no surface. -/
def replaceRegions (s : Stage) (screen : ScreenId) (rs : List Region) : Stage × Bool :=
  (s.adjust screen fun f => { f with regions := rs }, s.surfaces.contains screen)

/-- The last listed region of the active screen under a point. -/
def regionAt? (s : Stage) (p : Point) : Option Region := do
  (← s.activeSurface?).regions.reverse.find? fun r => r.rect.contains p

def panel? (s : Stage) (screen : ScreenId) : Option Panel := (s.surface? screen).bind (·.panel)

/-- Shows a panel on a screen and locks the scrolling of the page. -/
def mount (s : Stage) (screen : ScreenId) (panel : Panel) : Stage :=
  { (s.ensure screen).adjust screen (fun f => { f with panel := some panel }) with
    scrollLocked := true }

def hasPanel (s : Stage) : Bool := s.surfaces.values.any fun f => f.panel.isSome

/-- Takes the panel off a screen, and with the last panel the lock; true if there was one. -/
def unmount (s : Stage) (screen : ScreenId) : Stage × Bool :=
  let t := s.adjust screen fun f => { f with panel := none }
  (if t.hasPanel then t else { t with scrollLocked := false }, (s.panel? screen).isSome)

def scroll (s : Stage) (screen : ScreenId) (top : Nat) : Stage × Bool :=
  (s.adjust screen fun f => { f with panel := f.panel.map fun p => { p with scrollTop := top } },
    (s.panel? screen).isSome)

def setScrollLocked (s : Stage) (on : Bool) : Stage := { s with scrollLocked := on }

end Stage
end Gamebook
