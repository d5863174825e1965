import Gamebook.Pointer
import Gamebook.Roster
import Gamebook.Storybook

/-! A player: stage, navigation, stories and collaborators. Navigations are announced on a channel that
the player itself reads; pumping it tells the collaborators, and so mounts stories. -/
namespace Gamebook

/-- The catalog is loaded at the start; stories follow the transitions. -/
inductive Collaborator
  | catalog
  | story
  deriving DecidableEq, Repr

def Collaborator.name : Collaborator → String
  | catalog => "catalog"
  | story => "story"

structure App where
  stage : Stage := {}
  navigation : Navigation := {}
  storybook : Storybook
  roster : Roster Collaborator := [⟨.catalog, .pending⟩, ⟨.story, .pending⟩]
  /-- How many transitions the player has taken from the channel. -/
  taken : Nat := 0
  booted : Bool := false
  /-- Whether a boot is in flight; others wait for their turn. -/
  booting : Bool := false
  deriving DecidableEq

namespace App

def ofCatalog (catalog : Catalog) : App where
  storybook := { catalog }

variable {α : Type}

def navigating (x : Act (Staged Navigation) α) : Act App α :=
  .within (fun a => ⟨a.stage, a.navigation⟩)
    (fun a s => { a with stage := s.stage, navigation := s.part }) x

def reading (x : Act (Staged Storybook) α) : Act App α :=
  .within (fun a => ⟨a.stage, a.storybook⟩)
    (fun a s => { a with stage := s.stage, storybook := s.part }) x

def cataloguing (x : Act Catalog α) : Act App α :=
  .within (fun a => a.storybook.catalog)
    (fun a catalog => { a with storybook := { a.storybook with catalog } }) x

def startFault (cause : SourceFault) : StartFault := ⟨cause.message, cause.message⟩

def started (result : Except SourceFault Unit) : Except StartFault Unit :=
  result.mapError startFault

def crew (c : Settings) : Crew Collaborator App Catalog.Preloading Mounting where
  name := Collaborator.name
  roster := (·.roster)
  withRoster := fun roster a => { a with roster }
  start
    | .catalog => do return (← cataloguing Catalog.preload).map id started
    | .story => pure (.done (.ok ()))
  tell
    | .catalog, _ => pure (.done ())
    | .story, change => do
      return (← reading (Storybook.enter c.navigation change)).map id fun _ => ()

abbrev Telling := Roster.Round Mounting

abbrev Telling.request (w : Telling) : Request := w.inner.request

def notify (c : Settings) (change : ScreenChange) : Act App (Progress Telling Unit) :=
  (crew c).notify change

def resumeNotify (c : Settings) (w : Telling) (reply : w.request.Reply) :
    Act App (Progress Telling Unit) := do
  match ← reading (w.inner.resume c.story reply) with
  | .waiting inner => return .waiting { w with inner }
  | .done _ => (crew c).resumeRound w

/-- Hands on what was received; a transition may have to wait for its story. -/
def deliver (c : Settings) : List Receipt → Act App (Progress Telling Unit)
  | [] => pure (.done ())
  | receipt :: rest => do
    Act.modify fun a => { a with taken := Transitions.after a.taken receipt }
    match receipt with
    | .missed count => do
      Act.give (.transitionsMissed count)
      deliver c rest
    | .change change =>
      match ← notify c change with
      | .done () => deliver c rest
      | .waiting w => return .waiting w

/-- Delivers all transitions that the player has not taken yet. -/
def pump (c : Settings) : Act App (Progress Telling Unit) := do
  let a ← Act.get
  deliver c (a.navigation.transitions.unread a.taken)

def resumePump (c : Settings) (w : Telling) (reply : w.request.Reply) :
    Act App (Progress Telling Unit) := do
  match ← resumeNotify c w reply with
  | .done () => pump c
  | .waiting w => return .waiting w

abbrev Starting := Roster.Sweep Catalog.Preloading

abbrev Starting.request (w : Starting) : Request := w.inner.request

def startAll (c : Settings) : Act App (Progress Starting Nat) := (crew c).startAll

def resumeStartAll (c : Settings) (w : Starting) (reply : w.request.Reply) :
    Act App (Progress Starting Nat) := do
  let result ← cataloguing (w.inner.resume reply)
  (crew c).resumeSweep w (started result)

abbrev Retrying := Roster.Retry Catalog.Preloading

abbrev Retrying.request (w : Retrying) : Request := w.inner.request

def retry (c : Settings) (name : String) : Act App (Progress Retrying (Option Roster.Status)) :=
  (crew c).retry name

def resumeRetry (c : Settings) (w : Retrying) (reply : w.request.Reply) :
    Act App (Option Roster.Status) := do
  let result ← cataloguing (w.inner.resume reply)
  (crew c).resumeRetry w (started result)

end App
end Gamebook
