import Gamebook.App.Boot

/-! The calls that a player takes, each with what it waits for and what it answers. A call is begun, and
resumed with the reply to each of its requests; between two of its steps other calls may take theirs. -/
namespace Gamebook.App

open Screen (Route)

inductive Going
  | following (w : Fitting)
  | pumping (screen : Option ScreenId) (w : Telling)
  deriving DecidableEq, Repr

abbrev Going.request : Going → Request
  | following w => w.request
  | pumping _ w => w.request

inductive TapOutcome
  | slot (node : Option NodeId)
  | pointer (outcome : PointerOutcome)
  deriving DecidableEq, Repr

/-- A tap on a slot, or on the regions with the delivery of transitions after it. -/
inductive Tapping
  | choosing (w : Saving)
  | dispatching (w : Fitting)
  | pumping (outcome : PointerOutcome) (w : Telling)
  deriving DecidableEq, Repr

abbrev Tapping.request : Tapping → Request
  | choosing w => w.request
  | dispatching w => w.request
  | pumping _ w => w.request

def thenPump (c : Settings) (screen : Option ScreenId) :
    Act App (Progress Going (Option ScreenId)) := do
  return (← pump c).map (.pumping screen) fun _ => screen

def go (c : Settings) (raw : String) : Act App (Progress Going (Option ScreenId)) := do
  match ← navigating (Navigation.follow c.navigation raw) with
  | .done screen => thenPump c screen
  | .waiting w => return .waiting (.following w)

def Going.resume (c : Settings) : (w : Going) → w.request.Reply →
    Act App (Progress Going (Option ScreenId))
  | .following w, reply => do thenPump c (← navigating (Navigation.settle w reply))
  | .pumping screen w, reply => do
    return (← resumePump c w reply).map (.pumping screen) fun _ => screen

def thenPumpTap (c : Settings) (outcome : PointerOutcome) :
    Act App (Progress Tapping TapOutcome) := do
  return (← pump c).map (.pumping outcome) fun _ => .pointer outcome

/-- A tap belongs to the slots of the mounted story first, then to the regions of the screen. -/
def tap (c : Settings) (p : Stage.Point) : Act App (Progress Tapping TapOutcome) := do
  let a ← Act.get
  match Storybook.slotAt? ⟨a.stage, a.storybook⟩ p with
  | some _ => return (← reading (Storybook.selectAt c.story p)).map .choosing .slot
  | none =>
    match ← navigating (Navigation.dispatch c.navigation .up p) with
    | .done outcome => thenPumpTap c outcome
    | .waiting w => return .waiting (.dispatching w)

def Tapping.resume (c : Settings) : (w : Tapping) → w.request.Reply →
    Act App (Progress Tapping TapOutcome)
  | .choosing w, reply => do return .done (.slot (← reading (w.resume reply)))
  | .dispatching w, reply => do
    thenPumpTap c (.navigated (← navigating (Navigation.settle w reply)))
  | .pumping outcome w, reply => do
    return (← resumePump c w reply).map (.pumping outcome) fun _ => .pointer outcome

def choose (c : Settings) (slot : Nat) : Act App (Progress Saving (Option NodeId)) :=
  reading (Storybook.choose c.story slot)

end App

inductive Call
  | start (link : Option String)
  | follow (raw : String)
  | route (route : Screen.Route)
  | dispatch (kind : PointerKind) (p : Stage.Point)
  | fit (w : Fitting)
  | preload
  | locate (story : StoryId)
  | boot (link : Option String)
  | go (raw : String)
  | tap (p : Stage.Point)
  | choose (slot : Nat)
  | pump
  | enter (change : ScreenChange)
  | mount (v : Visit)
  | select (story : StoryId) (slot : Nat)
  | selectAt (p : Stage.Point)
  | startAll
  | retry (name : String)
  | notify (change : ScreenChange)
  deriving DecidableEq

inductive Waiting
  | opening (w : Opening)
  | following (w : Fitting)
  | dispatching (w : Fitting)
  | fitting (w : Fitting)
  | preloading (w : Catalog.Preloading)
  | locating (w : Catalog.Locating)
  | booting (w : App.Booting)
  | going (w : App.Going)
  | tapping (w : App.Tapping)
  | saving (w : Saving)
  | pumping (w : App.Telling)
  | entering (w : Mounting)
  | mounting (w : Mounting)
  | starting (w : App.Starting)
  | retrying (w : App.Retrying)
  | notifying (w : App.Telling)
  deriving DecidableEq

inductive Answer
  | nothing
  | loaded (result : Except LoadFault Unit)
  | preloaded (result : Except SourceFault Unit)
  | screen (screen : Option ScreenId)
  | node (node : Option NodeId)
  | locator (locator : Option Locator)
  | pointer (outcome : PointerOutcome)
  | tapped (outcome : App.TapOutcome)
  | fitted (outcome : FittingOutcome)
  | mounted (outcome : Option MountOutcome)
  | started (failed : Nat)
  | status (status : Option Roster.Status)

namespace Waiting

abbrev request : Waiting → Request
  | opening w => w.request
  | following w => w.request
  | dispatching w => w.request
  | fitting w => w.request
  | preloading w => w.request
  | locating w => w.request
  | booting w => w.request
  | going w => w.request
  | tapping w => w.request
  | saving w => w.request
  | pumping w => w.request
  | entering w => w.request
  | mounting w => w.request
  | starting w => w.request
  | retrying w => w.request
  | notifying w => w.request

end Waiting

namespace App

/-- Takes the first step of a call, up to its first request. -/
def begin (c : Settings) : Call → Act App (Progress Waiting Answer)
  | .start link => do return (← navigating (Navigation.start c link)).map .opening .loaded
  | .follow raw => do
    return (← navigating (Navigation.follow c.navigation raw)).map .following .screen
  | .route route => do
    return (← navigating (Navigation.go c.navigation route)).map .following .screen
  | .dispatch kind p => do
    return (← navigating (Navigation.dispatch c.navigation kind p)).map .dispatching .pointer
  | .fit w => return .waiting (.fitting w)
  | .preload => do return (← cataloguing Catalog.preload).map .preloading .preloaded
  | .locate story => do return (← cataloguing (Catalog.resolve story)).map .locating .locator
  | .boot link => do return (← boot c link).map .booting .loaded
  | .go raw => do return (← go c raw).map .going .screen
  | .tap p => do return (← tap c p).map .tapping .tapped
  | .choose slot => do return (← choose c slot).map .saving .node
  | .pump => do return (← pump c).map .pumping fun _ => .nothing
  | .enter change => do
    return (← reading (Storybook.enter c.navigation change)).map .entering .mounted
  | .mount v => do
    return (← reading (Storybook.mount v)).map .mounting fun o => .mounted (some o)
  | .select story slot => do
    return (← reading (Storybook.select c.story story slot)).map .saving .node
  | .selectAt p => do return (← reading (Storybook.selectAt c.story p)).map .saving .node
  | .startAll => do return (← startAll c).map .starting .started
  | .retry name => do return (← retry c name).map .retrying .status
  | .notify change => do return (← notify c change).map .notifying fun _ => .nothing

def resume (c : Settings) : (w : Waiting) → w.request.Reply → Act App (Progress Waiting Answer)
  | .opening w, reply => do return (← navigating (w.resume c reply)).map .opening .loaded
  | .following w, reply => do return .done (.screen (← navigating (Navigation.settle w reply)))
  | .dispatching w, reply => do
    return .done (.pointer (.navigated (← navigating (Navigation.settle w reply))))
  | .fitting w, reply => do
    return .done (.fitted (← navigating (Staged.onStage (w.resume reply))))
  | .preloading w, reply => do return .done (.preloaded (← cataloguing (w.resume reply)))
  | .locating w, reply => do return .done (.locator (← cataloguing (w.resume reply)))
  | .booting w, reply => do return (← w.resume c reply).map .booting .loaded
  | .going w, reply => do return (← w.resume c reply).map .going .screen
  | .tapping w, reply => do return (← w.resume c reply).map .tapping .tapped
  | .saving w, reply => do return .done (.node (← reading (w.resume reply)))
  | .pumping w, reply => do return (← resumePump c w reply).map .pumping fun _ => .nothing
  | .entering w, reply => do
    return (← reading (w.resume c.story reply)).map .entering fun o => .mounted (some o)
  | .mounting w, reply => do
    return (← reading (w.resume c.story reply)).map .mounting fun o => .mounted (some o)
  | .starting w, reply => do return (← resumeStartAll c w reply).map .starting .started
  | .retrying w, reply => do return .done (.status (← resumeRetry c w reply))
  | .notifying w, reply => do return (← resumeNotify c w reply).map .notifying fun _ => .nothing

end App
end Gamebook
