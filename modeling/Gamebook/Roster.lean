import Gamebook.Act
import Gamebook.Transitions

/-! Collaborators that start after the first navigation and are then told of each transition. Each has a
status of its own; only a pending or failed one is ever started, and only an active one is told of
anything. Starting and telling may have to wait, which the crew says. -/
namespace Gamebook

namespace Roster

inductive Status
  | pending
  | active
  | failed (text : String)
  | disabled
  deriving DecidableEq, Repr

/-- Whether a collaborator of this status may be started again on demand. -/
def Status.canRetry : Status → Bool
  | pending => true
  | failed _ => true
  | _ => false

structure Entry (κ : Type) where
  who : κ
  status : Status := .pending
  deriving DecidableEq, Repr

end Roster

/-- The collaborators in the order in which they are started and told. -/
abbrev Roster (κ : Type) := List (Roster.Entry κ)

structure Crew (κ σ ω π : Type) where
  name : κ → String
  roster : σ → Roster κ
  withRoster : Roster κ → σ → σ
  start : κ → Act σ (Progress ω (Except StartFault Unit))
  tell : κ → ScreenChange → Act σ (Progress π Unit)

namespace Roster

structure Sweep (ω : Type) where
  position : Nat
  failed : Nat
  inner : ω
  deriving DecidableEq, Repr

structure Retry (ω : Type) where
  position : Nat
  inner : ω
  deriving DecidableEq, Repr

structure Round (π : Type) where
  change : ScreenChange
  position : Nat
  inner : π
  deriving DecidableEq, Repr

def setStatus {κ : Type} (r : Roster κ) (position : Nat) (status : Status) : Roster κ :=
  r.modify position fun e => { e with status }

def positionsFrom {κ : Type} (r : Roster κ) (position : Nat) : List Nat :=
  (List.range r.length).drop position

end Roster

namespace Crew

open Roster

variable {κ σ ω π : Type} (crew : Crew κ σ ω π)

def mark (position : Nat) (status : Status) : Act σ Unit :=
  Act.modify fun s => crew.withRoster ((crew.roster s).setStatus position status) s

/-- Notes how a start ended; counts a failure. -/
def settle (position : Nat) (who : κ) : Except StartFault Unit → Act σ Nat
  | .ok () => do
    crew.mark position .active
    return 0
  | .error fault => do
    Act.give (.startFailed (crew.name who) fault)
    crew.mark position (.failed fault.message)
    return 1

def sweep (failed : Nat) : List Nat → Act σ (Progress (Sweep ω) Nat)
  | [] => pure (.done failed)
  | i :: rest => do
    match (crew.roster (← Act.get))[i]? with
    | some ⟨who, .pending⟩ =>
      match ← crew.start who with
      | .done result => do
        let n ← crew.settle i who result
        sweep (failed + n) rest
      | .waiting w => return .waiting ⟨i, failed, w⟩
    | _ => sweep failed rest

def startAll : Act σ (Progress (Sweep ω) Nat) := do
  crew.sweep 0 ((crew.roster (← Act.get)).positionsFrom 0)

def resumeSweep (w : Sweep ω) (result : Except StartFault Unit) :
    Act σ (Progress (Sweep ω) Nat) := do
  let roster := crew.roster (← Act.get)
  match roster[w.position]? with
  | some e => do
    let n ← crew.settle w.position e.who result
    crew.sweep (w.failed + n) (roster.positionsFrom (w.position + 1))
  | none => return .done w.failed

def find? (s : σ) (name : String) : Option Nat :=
  (crew.roster s).findIdx? fun e => crew.name e.who = name

def statusAt? (s : σ) (position : Nat) : Option Status := ((crew.roster s)[position]?).map (·.status)

def status? (s : σ) (name : String) : Option Status := (crew.find? s name).bind (crew.statusAt? s)

/-- Starts a pending or failed collaborator again; its status afterwards, none if it is unknown. -/
def retry (name : String) : Act σ (Progress (Retry ω) (Option Status)) := do
  let s ← Act.get
  match crew.find? s name with
  | none => return .done none
  | some i =>
    match (crew.roster s)[i]? with
    | none => return .done none
    | some e =>
      if e.status.canRetry then
        match ← crew.start e.who with
        | .done result => do
          let _ ← crew.settle i e.who result
          return .done (crew.statusAt? (← Act.get) i)
        | .waiting w => return .waiting ⟨i, w⟩
      else return .done (some e.status)

def resumeRetry (w : Retry ω) (result : Except StartFault Unit) : Act σ (Option Status) := do
  match (crew.roster (← Act.get))[w.position]? with
  | some e => do
    let _ ← crew.settle w.position e.who result
    return crew.statusAt? (← Act.get) w.position
  | none => return none

/-- Stops telling a collaborator anything; false if it is unknown. -/
def disable (name : String) : Act σ Bool := do
  match crew.find? (← Act.get) name with
  | some i => do
    crew.mark i .disabled
    return true
  | none => return false

def round (change : ScreenChange) : List Nat → Act σ (Progress (Round π) Unit)
  | [] => pure (.done ())
  | i :: rest => do
    match (crew.roster (← Act.get))[i]? with
    | some ⟨who, .active⟩ =>
      match ← crew.tell who change with
      | .done () => round change rest
      | .waiting w => return .waiting ⟨change, i, w⟩
    | _ => round change rest

def notify (change : ScreenChange) : Act σ (Progress (Round π) Unit) := do
  crew.round change ((crew.roster (← Act.get)).positionsFrom 0)

def resumeRound (w : Round π) : Act σ (Progress (Round π) Unit) := do
  crew.round w.change ((crew.roster (← Act.get)).positionsFrom (w.position + 1))

end Crew
end Gamebook
