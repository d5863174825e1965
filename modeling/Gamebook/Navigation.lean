import Gamebook.Screen.Route
import Gamebook.Staged
import Gamebook.Transitions

/-! Navigation between screens. A navigation that is accepted opens a generation and shows its screen at
once; the regions of the screen are fetched after that, and taken only if nothing else was shown
meanwhile. In either case the navigation is then announced to the receivers of transitions. -/
namespace Gamebook

open Screen (Route Memory Registry)

structure Fitting where
  document : Resource
  screen : ScreenId
  generation : Nat
  deriving DecidableEq, Repr

inductive FittingOutcome
  | applied (count : Nat)
  | failed
  | stale
  | noSurface
  deriving DecidableEq, Repr

namespace Fitting

abbrev request (w : Fitting) : Request := .document w.document.text

/-- Late regions are dropped, and so are those of a document that cannot be had. -/
def resume (w : Fitting) (reply : w.request.Reply) : Act Stage FittingOutcome := do
  let stage ← Act.get
  if stage.isCurrent w.generation w.screen then
    match reply with
    | .error cause => do
      Act.give (.regionsFailed w.screen cause)
      Act.set (stage.replaceRegions w.screen []).1
      pure .failed
    | .ok doc => do
      let regions := (Stage.Hitbox.ofDocument doc).map Stage.Hitbox.region
      let (stage, found) := stage.replaceRegions w.screen regions
      Act.set stage
      if found then pure (.applied regions.length)
      else do
        Act.give (.noSurface w.screen)
        pure .noSurface
  else pure .stale

end Fitting

/-- What navigation knows beside the stage; a style sheet is attached once. -/
structure Navigation where
  registry : Option Registry := none
  memory : Memory := {}
  styles : List Resource := []
  transitions : Transitions := {}
  deriving DecidableEq, Repr

namespace Navigation

def loadStyle (href : Resource) : Act (Staged Navigation) Unit := do
  let s ← Act.get
  if Text.blank href.text || s.part.styles.contains href then pure ()
  else Act.set ⟨s.stage.attach href, { s.part with styles := s.part.styles ++ [href] }⟩

/-- Shows a screen in a new generation. -/
def depart (c : NavigationSettings) (screen : ScreenId) (entry : Screen.Entry) :
    Act (Staged Navigation) Nat := do
  Staged.onStage (Act.modify fun stage => stage.beginNavigation.deactivateAll)
  match entry.css with
  | some href => loadStyle href
  | none => pure ()
  Staged.onStage (Act.modify fun stage => stage.activate screen)
  Staged.onPart (Act.modify fun nav => { nav with memory := nav.memory.note c screen })
  return (← Act.get).stage.generation

def arrive (screen : ScreenId) (generation : Nat) : Act (Staged Navigation) (Option ScreenId) := do
  Staged.onPart (Act.modify fun nav =>
    { nav with transitions := nav.transitions.send ⟨screen, generation⟩ })
  return some screen

def go (c : NavigationSettings) (route : Route) :
    Act (Staged Navigation) (Progress Fitting (Option ScreenId)) := do
  let nav := (← Act.get).part
  match nav.registry with
  | none => do
    Act.give (.refused .notLoaded)
    return .done none
  | some registry =>
    match nav.memory.resolve route registry with
    | .error cause => do
      Act.give (.refused cause)
      return .done none
    | .ok screen => do
      let entry := (registry.entry? screen).getD {}
      let generation ← depart c screen entry
      match entry.hitboxes with
      | some document => return .waiting ⟨document, screen, generation⟩
      | none => do
        Staged.onStage (Act.modify fun stage => (stage.replaceRegions screen []).1)
        return .done (← arrive screen generation)

def settle (w : Fitting) (reply : w.request.Reply) : Act (Staged Navigation) (Option ScreenId) := do
  match ← Staged.onStage (w.resume reply) with
  | .failed => Act.give (.shownWithoutRegions w.screen)
  | _ => pure ()
  arrive w.screen w.generation

def follow (c : NavigationSettings) (raw : String) :
    Act (Staged Navigation) (Progress Fitting (Option ScreenId)) :=
  go c (Route.ofText c.aliases raw)

end Navigation

def Screen.Registry.ofReply (path : String) : Except SourceFault Json.Value →
    Except LoadFault Registry
  | .error cause => .error (.source cause)
  | .ok doc =>
    match Registry.ofValue doc with
    | .ok registry => .ok registry
    | .error cause => .error (.malformed path cause)

inductive Opening
  | registry (path : String) (link : Option String)
  | regions (w : Fitting)
  deriving DecidableEq, Repr

namespace Opening

abbrev request : Opening → Request
  | registry path _ => .document path
  | regions w => w.request

end Opening

namespace Navigation

/-- The screen to show first: the one a link names if there is one and it can be reached, or else
the one the registry starts on. -/
def firstScreen (c : NavigationSettings) (registry : Registry) (link : Option String) :
    Act (Staged Navigation) ScreenId := do
  match link.bind Text.trimmed? with
  | none => return registry.start
  | some link =>
    match (← Act.get).part.memory.resolve (Route.ofText c.aliases link) registry with
    | .ok screen => return screen
    | .error cause => do
      Act.give (.linkIgnored cause)
      return registry.start

/-- Keeps a registry that was read, gives its screens their surfaces and shows the first. -/
def enter (c : NavigationSettings) (registry : Registry) (link : Option String) :
    Act (Staged Navigation) (Progress Opening (Except LoadFault Unit)) := do
  Staged.onPart (Act.modify fun nav => { nav with registry := some registry })
  Staged.onStage (Act.modify fun stage => registry.ids.foldl Stage.ensure stage)
  let screen ← firstScreen c registry link
  return (← go c (.screen screen)).map .regions fun _ => .ok ()

/-- Loads the registry and shows the first screen, unless a registry is loaded already. -/
def start (c : Settings) (link : Option String) :
    Act (Staged Navigation) (Progress Opening (Except LoadFault Unit)) := do
  match (← Act.get).part.registry with
  | some _ => return .done (.ok ())
  | none => return .waiting (.registry c.content.registryPath link)

end Navigation

def Opening.resume (c : Settings) : (w : Opening) → w.request.Reply →
    Act (Staged Navigation) (Progress Opening (Except LoadFault Unit))
  | .registry path link, reply =>
    match Screen.Registry.ofReply path reply with
    | .error cause => pure (.done (.error cause))
    | .ok loaded => Navigation.enter c.navigation loaded link
  | .regions f, reply => do
    let _ ← Navigation.settle f reply
    return .done (.ok ())

end Gamebook
