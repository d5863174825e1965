import Gamebook.Catalog
import Gamebook.Staged
import Gamebook.Story.Dialect
import Gamebook.Story.Prose
import Gamebook.Transitions

/-! Stories on the stage. A story is mounted on its screen in three fetches: where it is, what it says,
and where the reader was; it is shown only if its screen is still the one being visited. A reader's
place of this session comes before a saved one, and that before the entry of the story. -/
namespace Gamebook

open Story (Graph)

structure Mounted where
  story : StoryId
  screen : ScreenId
  graph : Graph
  deriving DecidableEq, Repr

/-- What is known of stories beside the stage: graphs by the path of their document, and the places
reached in this session. -/
structure Storybook where
  catalog : Catalog
  graphs : Table String Graph := []
  places : Table StoryId NodeId := []
  mounted : Option Mounted := none
  deriving DecidableEq, Repr

structure Visit where
  story : StoryId
  screen : ScreenId
  generation : Nat
  deriving DecidableEq, Repr

inductive MountOutcome
  | rendered (node : NodeId)
  | notInCatalog
  | empty
  | stale
  deriving DecidableEq, Repr

/-- A mount that waits: for the catalog, for the story document, or for the saved place. -/
inductive Mounting
  | locating (v : Visit) (w : Catalog.Locating)
  | opening (v : Visit) (url : String)
  | recalling (v : Visit) (graph : Option Graph)
  deriving DecidableEq, Repr

abbrev Mounting.request : Mounting → Request
  | locating _ w => w.request
  | opening _ url => .document url
  | recalling v _ => .place v.story

namespace Storybook

/-- The slots for the first options of a scene; those left over cannot be taken. -/
def slots (c : StorySettings) (options : List Story.Choice) : List Stage.Slot :=
  (List.range Stage.slotCount).map fun i =>
    match options[i]? with
    | some choice => ⟨choice.label, some choice.target⟩
    | none => ⟨c.disabledLabel, none⟩

/-- The panel for a scene of a story; a scene that does not exist is empty. -/
def panel (c : StorySettings) (m : Mounted) (node : NodeId) (scrollTop : Nat) : Stage.Panel :=
  let scene := m.graph.scene? node
  let prose := Story.Prose.ofText (match scene with
    | some s => s.text
    | none => "")
  { story := m.story
    node
    html := prose.html
    paragraphs := prose.paragraphs
    scrollTop
    slots := slots c (match scene with
      | some s => s.options
      | none => []) }

/-- A panel of the same story leaves its scroll position to the next. -/
def scrollTop (stage : Stage) (m : Mounted) : Nat :=
  match stage.panel? m.screen with
  | some p => if p.story = m.story then p.scrollTop else 0
  | none => 0

def display (c : StorySettings) (m : Mounted) (node : NodeId) (stage : Stage) : Stage :=
  stage.mount m.screen (panel c m node (scrollTop stage m))

def render (c : StorySettings) (node : NodeId) : Act (Staged Storybook) Bool := do
  match (← Act.get).part.mounted with
  | some m => do
    Staged.onStage (Act.modify (display c m node))
    return true
  | none => return false

/-- Takes off all panels but that of one screen, and forgets a story mounted elsewhere. -/
def unmountExcept (keep : Option ScreenId) : Act (Staged Storybook) Unit :=
  Act.modify fun s =>
    let others := (s.stage.surfaces.values.filter fun f => f.panel.isSome && some f.id ≠ keep)
    { stage := others.foldl (fun stage f => (stage.unmount f.id).1) s.stage
      part := { s.part with
        mounted := s.part.mounted.filter fun m => some m.screen = keep } }

/-- Takes the panel off a screen that turned out to have no story, while it is current. -/
def unmountIfCurrent (v : Visit) : Act (Staged Storybook) Unit :=
  Act.modify fun s =>
    if s.stage.isCurrent v.generation v.screen then
      { stage := ((s.stage.unmount v.screen).1).setScrollLocked false
        part := { s.part with mounted := none } }
    else s

/-- Where a reader goes on: the place of this session, the saved place, or the entry, whichever is
the first that the story has. -/
def resumeNode? (graph : Graph) (inSession saved : Option NodeId) : Option NodeId :=
  (inSession.filter graph.contains).or ((saved.filter graph.contains).or graph.entry?)

/-- Whether a reader begins with the first scene because the start scene is missing. -/
def missesStart (graph : Graph) (inSession saved : Option NodeId) : Bool :=
  !(inSession.any graph.contains || saved.any graph.contains || graph.contains graph.start)

def settle (c : StorySettings) (v : Visit) (graph : Option Graph) (saved : Option NodeId) :
    Act (Staged Storybook) MountOutcome := do
  let s ← Act.get
  if s.stage.isCurrent v.generation v.screen then
    match graph.filter fun g => !g.isEmpty with
    | none => do
      Act.give (.noContent v.story)
      unmountIfCurrent v
      return .empty
    | some graph => do
      let inSession := s.part.places.get? v.story
      if missesStart graph inSession saved then Act.give (.startMissing graph.start v.story)
      match resumeNode? graph inSession saved with
      | none => return .empty
      | some node => do
        let m : Mounted := ⟨v.story, v.screen, graph⟩
        Staged.onPart (Act.modify fun b =>
          { b with places := b.places.put v.story node, mounted := some m })
        Staged.onStage (Act.modify (display c m node))
        return .rendered node
  else return .stale

def located (v : Visit) (locator : Option Locator) :
    Act (Staged Storybook) (Progress Mounting MountOutcome) := do
  match locator.filter fun l => !Text.blank l.storyUrl with
  | none => do
    Act.give (.notInCatalog v.story)
    unmountIfCurrent v
    return .done .notInCatalog
  | some l =>
    match (← Act.get).part.graphs.get? l.storyUrl with
    | some graph => return .waiting (.recalling v (some graph))
    | none => return .waiting (.opening v l.storyUrl)

def mount (v : Visit) : Act (Staged Storybook) (Progress Mounting MountOutcome) := do
  match ← Staged.onPart (.within (·.catalog) (fun b catalog => { b with catalog })
      (Catalog.resolve v.story)) with
  | .done locator => located v locator
  | .waiting w => return .waiting (.locating v w)

/-- Reacts to a completed navigation: the panels of other screens go, and a screen that tells a story
gets it. -/
def enter (c : NavigationSettings) (change : ScreenChange) :
    Act (Staged Storybook) (Progress Mounting (Option MountOutcome)) := do
  if (← Act.get).stage.isCurrent change.generation change.screen then
    match c.storyOf? change.screen with
    | none => do
      unmountExcept none
      Staged.onStage (Act.modify (·.setScrollLocked false))
      return .done none
    | some story => do
      unmountExcept (some change.screen)
      return (← mount ⟨story, change.screen, change.generation⟩).map id some
  else return .done (some .stale)

end Storybook

open Storybook in
def Mounting.resume (c : StorySettings) : (w : Mounting) → w.request.Reply →
    Act (Staged Storybook) (Progress Mounting MountOutcome)
  | .locating v w, reply => do
    let locator ← Staged.onPart (.within (·.catalog) (fun b catalog => { b with catalog })
      (w.resume reply))
    located v locator
  | .opening v _, .error cause => do
    Act.give (.storyFailed cause)
    return .waiting (.recalling v none)
  | .opening v url, .ok doc => do
    let graph := Graph.ofDocument c doc
    if (Story.Dialect.entries? doc).isNone then Act.give .noCollection
    Staged.onPart (Act.modify fun b => { b with graphs := b.graphs.put url graph })
    return .waiting (.recalling v (some graph))
  | .recalling v graph, .error cause => do
    Act.give (.placeUnreadable v.story cause)
    return .done (← settle c v graph none)
  | .recalling v graph, .ok saved => do return .done (← settle c v graph saved)

structure Saving where
  visit : Visit
  target : NodeId
  deriving DecidableEq, Repr

namespace Saving

abbrev request (w : Saving) : Request := .savePlace w.visit.story w.target

/-- A reader who is still on the screen is taken to the top of it. -/
def resume (w : Saving) (reply : w.request.Reply) : Act (Staged Storybook) (Option NodeId) := do
  match reply with
  | .error cause => Act.give (.placeUnsaved w.visit.story cause)
  | .ok () => pure ()
  Staged.onStage (Act.modify fun stage =>
    if stage.isCurrent w.visit.generation w.visit.screen then (stage.scroll w.visit.screen 0).1
    else stage)
  return some w.target

end Saving

namespace Storybook

/-- Where a slot of the mounted panel leads, while its screen is active. -/
def target? (s : Staged Storybook) (m : Mounted) (slot : Nat) : Option NodeId :=
  if s.stage.active = some m.screen then do
    let panel ← s.stage.panel? m.screen
    let target ← (← panel.slots[slot]?).target
    if m.graph.contains target then some target else none
  else none

/-- Follows a choice of the mounted story; a choice that leads nowhere changes nothing. -/
def select (c : StorySettings) (story : StoryId) (slot : Nat) :
    Act (Staged Storybook) (Progress Saving (Option NodeId)) := do
  let s ← Act.get
  match s.part.mounted.filter fun m => m.story = story with
  | none => return .done none
  | some m =>
    match target? s m slot with
    | none => return .done none
    | some target => do
      Staged.onPart (Act.modify fun b => { b with places := b.places.put story target })
      Staged.onStage (Act.modify (display c m target))
      return .waiting ⟨⟨story, m.screen, s.stage.generation⟩, target⟩

def slotAt? (s : Staged Storybook) (p : Stage.Point) : Option Nat := do
  let m ← s.part.mounted
  if s.stage.active = some m.screen then (← s.stage.panel? m.screen).slotAt? p else none

def choose (c : StorySettings) (slot : Nat) :
    Act (Staged Storybook) (Progress Saving (Option NodeId)) := do
  match (← Act.get).part.mounted with
  | none => return .done none
  | some m => select c m.story slot

def selectAt (c : StorySettings) (p : Stage.Point) :
    Act (Staged Storybook) (Progress Saving (Option NodeId)) := do
  match slotAt? (← Act.get) p with
  | none => return .done none
  | some slot => choose c slot

end Storybook
end Gamebook
