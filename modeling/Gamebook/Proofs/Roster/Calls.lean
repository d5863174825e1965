import Gamebook.Proofs.Keeps
import Gamebook.Proofs.Trace

/-! Calls to a crew, which may overlap: all that are pending are started, one is started again or disabled,
and those that are active are told of a transition. What a step asks of each collaborator is seen by letting a
crew that keeps a record take the same step; `same_begin` and `same_resume` say that it does nothing else. -/
namespace Gamebook.Crew

open Roster

inductive Order
  | startAll
  | retry (name : String)
  | disable (name : String)
  | notify (change : ScreenChange)
  deriving DecidableEq

inductive Pending (ω π : Type)
  | sweeping (w : Sweep ω)
  | retrying (w : Retry ω)
  | telling (w : Round π)
  deriving DecidableEq

inductive Outcome
  | started (failed : Nat)
  | status (status : Option Status)
  | disabled (known : Bool)
  | told
  deriving DecidableEq

/-- How a collaborator goes on that had to wait while it was started, or while it was told. -/
structure Sequel (σ ω π : Type) where
  startRequest : ω → Request
  startResume : (w : ω) → (startRequest w).Reply → Act σ (Progress ω (Except StartFault Unit))
  tellRequest : π → Request
  tellResume : (w : π) → (tellRequest w).Reply → Act σ (Progress π Unit)

variable {κ σ ω π α β : Type}

abbrev Pending.request (seq : Sequel σ ω π) : Pending ω π → Request
  | sweeping w => seq.startRequest w.inner
  | retrying w => seq.startRequest w.inner
  | telling w => seq.tellRequest w.inner

section Calls

variable (crew : Crew κ σ ω π) (seq : Sequel σ ω π)

def begin : Order → Act σ (Progress (Pending ω π) Outcome)
  | .startAll => do return (← crew.startAll).map .sweeping .started
  | .retry name => do return (← crew.retry name).map .retrying .status
  | .disable name => do return .done (.disabled (← crew.disable name))
  | .notify change => do return (← crew.notify change).map .telling fun _ => .told

def resume : (w : Pending ω π) → (w.request seq).Reply → Act σ (Progress (Pending ω π) Outcome)
  | .sweeping w, reply => do
    match ← seq.startResume w.inner reply with
    | .done result => return (← crew.resumeSweep w result).map .sweeping .started
    | .waiting inner => return .waiting (.sweeping { w with inner })
  | .retrying w, reply => do
    match ← seq.startResume w.inner reply with
    | .done result => return .done (.status (← crew.resumeRetry w result))
    | .waiting inner => return .waiting (.retrying { w with inner })
  | .telling w, reply => do
    match ← seq.tellResume w.inner reply with
    | .done () => return (← crew.resumeRound w).map .telling fun _ => .told
    | .waiting inner => return .waiting (.telling { w with inner })

def protocol : Protocol σ Order (Pending ω π) Outcome where
  request := Pending.request seq
  begin := crew.begin
  resume := crew.resume seq
  ready _ _ := true

/-- A crew has its statuses to itself: no collaborator changes them while it is started or told. -/
structure Discreet : Prop where
  withRoster : ∀ r s, crew.roster (crew.withRoster r s) = r
  start : ∀ who, Act.Keeps crew.roster (crew.start who)
  tell : ∀ who change, Act.Keeps crew.roster (crew.tell who change)
  startResume : ∀ w reply, Act.Keeps crew.roster (seq.startResume w reply)
  tellResume : ∀ w reply, Act.Keeps crew.roster (seq.tellResume w reply)

end Calls

/-- A state with a record of how often each collaborator was started, and what it was told of. -/
structure Recorded (σ : Type) where
  state : σ
  starts : Nat → Nat
  told : Nat → List ScreenChange

namespace Recorded

def blank (state : σ) : Recorded σ := ⟨state, fun _ => 0, fun _ => []⟩

def inside (x : Act σ α) : Act (Recorded σ) α :=
  .within (·.state) (fun s state => { s with state }) x

def noteStart (i : Nat) : Act (Recorded σ) Unit :=
  Act.modify fun s => { s with starts := Function.update s.starts i (s.starts i + 1) }

def noteTell (i : Nat) (change : ScreenChange) : Act (Recorded σ) Unit :=
  Act.modify fun s => { s with told := Function.update s.told i (s.told i ++ [change]) }

@[simp] theorem inside_apply (x : Act σ α) (s : Recorded σ) :
    inside x s = ⟨{ s with state := (x s.state).state }, (x s.state).notices, (x s.state).value⟩ := rfl

@[simp] theorem noteStart_apply (i : Nat) (s : Recorded σ) :
    noteStart i s = ⟨{ s with starts := Function.update s.starts i (s.starts i + 1) }, [], ()⟩ := rfl

@[simp] theorem noteTell_apply (i : Nat) (change : ScreenChange) (s : Recorded σ) :
    noteTell i change s = ⟨{ s with told := Function.update s.told i (s.told i ++ [change]) }, [], ()⟩ := rfl

end Recorded

def numbered (r : Roster κ) : Roster (Nat × κ) := r.mapIdx fun i e => ⟨(i, e.who), e.status⟩

def unnumbered (r : Roster (Nat × κ)) : Roster κ := r.map fun e => ⟨e.who.2, e.status⟩

/-- The crew that also keeps a record. -/
def recorded (crew : Crew κ σ ω π) : Crew (Nat × κ) (Recorded σ) ω π where
  name who := crew.name who.2
  roster s := numbered (crew.roster s.state)
  withRoster r s := { s with state := crew.withRoster (unnumbered r) s.state }
  start who := do
    Recorded.noteStart who.1
    Recorded.inside (crew.start who.2)
  tell who change := do
    Recorded.noteTell who.1 change
    Recorded.inside (crew.tell who.2 change)

def Sequel.recorded (seq : Sequel σ ω π) : Sequel (Recorded σ) ω π where
  startRequest := seq.startRequest
  startResume w reply := Recorded.inside (seq.startResume w reply)
  tellRequest := seq.tellRequest
  tellResume w reply := Recorded.inside (seq.tellResume w reply)

section Numbers

variable (r : Roster κ)

@[simp] theorem length_numbered : (numbered r).length = r.length := by simp [numbered]

@[simp] theorem getElem?_numbered (i : Nat) :
    (numbered r)[i]? = (r[i]?).map fun e => ⟨(i, e.who), e.status⟩ := by simp [numbered]

@[simp] theorem unnumbered_setStatus (i : Nat) (status : Status) :
    unnumbered ((numbered r).setStatus i status) = r.setStatus i status := by
  apply List.ext_getElem?
  intro j
  simp only [unnumbered, setStatus, List.getElem?_map, List.getElem?_modify, getElem?_numbered]
  by_cases hij : i = j <;> cases r[j]? <;> simp [hij]

@[simp] theorem positionsFrom_numbered (i : Nat) : (numbered r).positionsFrom i = r.positionsFrom i := by
  simp [positionsFrom]

end Numbers

structure Same (x : Act (Recorded σ) α) (y : Act σ α) : Prop where
  state : ∀ s, (x s).state.state = (y s.state).state
  notices : ∀ s, (x s).notices = (y s.state).notices
  value : ∀ s, (x s).value = (y s.state).value

namespace Same

theorem pure (a : α) : Same (pure a : Act (Recorded σ) α) (pure a) :=
  ⟨fun _ => rfl, fun _ => rfl, fun _ => rfl⟩

theorem give (n : Notice) : Same (Act.give n : Act (Recorded σ) Unit) (Act.give n) :=
  ⟨fun _ => rfl, fun _ => rfl, fun _ => rfl⟩

theorem inside (x : Act σ α) : Same (Recorded.inside x) x := ⟨fun _ => rfl, fun _ => rfl, fun _ => rfl⟩

theorem bind {x : Act (Recorded σ) α} {y : Act σ α} {f : α → Act (Recorded σ) β} {g : α → Act σ β}
    (h : Same x y) (hf : ∀ a, Same (f a) (g a)) : Same (x >>= f) (y >>= g) := by
  refine ⟨fun s => ?_, fun s => ?_, fun s => ?_⟩
  · simp only [Act.bind_apply, (hf _).state, h.state, h.value]
  · simp only [Act.bind_apply, (hf _).notices, h.notices, h.state, h.value]
  · simp only [Act.bind_apply, (hf _).value, h.state, h.value]

theorem get_bind {f : Recorded σ → Act (Recorded σ) β} {g : σ → Act σ β} (h : ∀ s, Same (f s) (g s.state)) :
    Same (Act.get >>= f) (Act.get >>= g) := by
  refine ⟨fun s => ?_, fun s => ?_, fun s => ?_⟩
  · exact (h s).state s
  · exact (h s).notices s
  · exact (h s).value s

theorem after {x : Act (Recorded σ) α} {y : Act σ α} (h : Same x y) {note : Act (Recorded σ) Unit}
    (hstate : ∀ s, (note s).state.state = s.state) (hnotices : ∀ s, (note s).notices = []) :
    Same (note >>= fun _ => x) y := by
  refine ⟨fun s => ?_, fun s => ?_, fun s => ?_⟩
  · simp only [Act.bind_apply, h.state, hstate]
  · simp only [Act.bind_apply, h.notices, hstate, hnotices, List.nil_append]
  · simp only [Act.bind_apply, h.value, hstate]

end Same

section Same

variable (crew : Crew κ σ ω π) (seq : Sequel σ ω π)

theorem getElem?_recorded (s : Recorded σ) (i : Nat) : (crew.recorded.roster s)[i]? =
    ((crew.roster s.state)[i]?).map fun e => ⟨(i, e.who), e.status⟩ := getElem?_numbered ..

theorem positionsFrom_recorded (s : Recorded σ) (i : Nat) :
    (crew.recorded.roster s).positionsFrom i = (crew.roster s.state).positionsFrom i :=
  positionsFrom_numbered ..

theorem same_start (i : Nat) (who : κ) : Same (crew.recorded.start (i, who)) (crew.start who) :=
  (Same.inside (crew.start who)).after (fun _ => rfl) fun _ => rfl

theorem same_tell (i : Nat) (who : κ) (change : ScreenChange) :
    Same (crew.recorded.tell (i, who) change) (crew.tell who change) :=
  (Same.inside (crew.tell who change)).after (fun _ => rfl) fun _ => rfl

theorem same_mark (i : Nat) (status : Status) : Same (crew.recorded.mark i status) (crew.mark i status) := by
  refine ⟨fun s => ?_, fun _ => rfl, fun _ => rfl⟩
  simp [mark, recorded]

theorem same_settle (i j : Nat) (who : κ) (result : Except StartFault Unit) :
    Same (crew.recorded.settle i (j, who) result) (crew.settle i who result) := by
  cases result with
  | ok => exact (crew.same_mark i .active).bind fun _ => .pure 0
  | error fault =>
    exact (Same.give _).bind fun _ => (crew.same_mark i _).bind fun _ => .pure 1

theorem same_sweep (failed : Nat) (positions : List Nat) :
    Same (crew.recorded.sweep failed positions) (crew.sweep failed positions) := by
  induction positions generalizing failed with
  | nil => exact .pure _
  | cons i rest ih =>
    refine .get_bind fun s => ?_
    rw [crew.getElem?_recorded]
    cases (crew.roster s.state)[i]? with
    | none => exact ih failed
    | some e =>
      obtain ⟨who, status⟩ := e
      cases status with
      | pending =>
        refine (crew.same_start i who).bind fun p => ?_
        cases p with
        | done result => exact (crew.same_settle i i who result).bind fun n => ih _
        | waiting w => exact .pure _
      | active => exact ih failed
      | failed text => exact ih failed
      | disabled => exact ih failed

theorem same_startAll : Same crew.recorded.startAll crew.startAll := by
  refine .get_bind fun s => ?_
  rw [crew.positionsFrom_recorded]
  exact crew.same_sweep 0 _

theorem same_resumeSweep (w : Sweep ω) (result : Except StartFault Unit) :
    Same (crew.recorded.resumeSweep w result) (crew.resumeSweep w result) := by
  refine .get_bind fun s => ?_
  dsimp only
  rw [crew.getElem?_recorded, crew.positionsFrom_recorded]
  cases (crew.roster s.state)[w.position]? with
  | none => exact .pure _
  | some e => exact (crew.same_settle _ _ _ _).bind fun n => crew.same_sweep _ _

theorem find?_recorded (s : Recorded σ) (name : String) :
    crew.recorded.find? s name = crew.find? s.state name := by
  show (numbered (crew.roster s.state)).findIdx? (fun e => crew.name e.who.2 = name) = _
  unfold find?
  generalize crew.roster s.state = r
  have hmap : (numbered r).map (fun e => decide (crew.name e.who.2 = name)) =
      r.map fun e => decide (crew.name e.who = name) := by
    apply List.ext_getElem?
    intro i
    simp [Function.comp_def]
  have hidx : ∀ {γ : Type} (p : γ → Bool) (l : List γ), l.findIdx? p = (l.map p).findIdx? id := by
    intro γ p l
    rw [List.findIdx?_map]
    rfl
  rw [hidx, hmap, ← hidx]

theorem statusAt?_recorded (s : Recorded σ) (i : Nat) :
    crew.recorded.statusAt? s i = crew.statusAt? s.state i := by
  rw [statusAt?, statusAt?, crew.getElem?_recorded, Option.map_map]
  rfl

theorem same_retry (name : String) : Same (crew.recorded.retry name) (crew.retry name) := by
  refine .get_bind fun s => ?_
  rw [crew.find?_recorded]
  cases crew.find? s.state name with
  | none => exact .pure _
  | some i =>
    dsimp only
    rw [crew.getElem?_recorded]
    cases (crew.roster s.state)[i]? with
    | none => exact .pure _
    | some e =>
      dsimp only [Option.map_some]
      by_cases hretry : e.status.canRetry = true
      · rw [if_pos hretry, if_pos hretry]
        refine (crew.same_start i e.who).bind fun p => ?_
        cases p with
        | done result =>
          refine (crew.same_settle i i e.who result).bind fun n => .get_bind fun s => ?_
          rw [crew.statusAt?_recorded]
          exact .pure _
        | waiting w => exact .pure _
      · rw [if_neg hretry, if_neg hretry]
        exact .pure _

theorem same_resumeRetry (w : Retry ω) (result : Except StartFault Unit) :
    Same (crew.recorded.resumeRetry w result) (crew.resumeRetry w result) := by
  refine .get_bind fun s => ?_
  rw [crew.getElem?_recorded]
  cases (crew.roster s.state)[w.position]? with
  | none => exact .pure _
  | some e =>
    refine (crew.same_settle _ _ _ _).bind fun n => .get_bind fun s => ?_
    rw [crew.statusAt?_recorded]
    exact .pure _

theorem same_disable (name : String) : Same (crew.recorded.disable name) (crew.disable name) := by
  refine .get_bind fun s => ?_
  rw [crew.find?_recorded]
  cases crew.find? s.state name with
  | none => exact .pure _
  | some i => exact (crew.same_mark i _).bind fun _ => .pure _

theorem same_round (change : ScreenChange) (positions : List Nat) :
    Same (crew.recorded.round change positions) (crew.round change positions) := by
  induction positions with
  | nil => exact .pure _
  | cons i rest ih =>
    refine .get_bind fun s => ?_
    rw [crew.getElem?_recorded]
    cases (crew.roster s.state)[i]? with
    | none => exact ih
    | some e =>
      obtain ⟨who, status⟩ := e
      cases status with
      | active =>
        refine (crew.same_tell i who change).bind fun p => ?_
        cases p with
        | done => exact ih
        | waiting w => exact .pure _
      | pending => exact ih
      | failed text => exact ih
      | disabled => exact ih

theorem same_begin (order : Order) : Same (crew.recorded.begin order) (crew.begin order) := by
  cases order with
  | startAll => exact crew.same_startAll.bind fun _ => .pure _
  | retry name => exact (crew.same_retry name).bind fun _ => .pure _
  | disable name => exact (crew.same_disable name).bind fun _ => .pure _
  | notify change =>
    refine Same.bind (.get_bind fun s => ?_) fun _ => .pure _
    rw [crew.positionsFrom_recorded]
    exact crew.same_round change _

theorem same_resume (w : Pending ω π) (reply : (w.request seq).Reply) :
    Same (crew.recorded.resume seq.recorded w reply) (crew.resume seq w reply) := by
  cases w with
  | sweeping w =>
    refine (Same.inside (seq.startResume w.inner reply)).bind fun p => ?_
    cases p with
    | done result => exact (crew.same_resumeSweep w result).bind fun _ => .pure _
    | waiting inner => exact .pure _
  | retrying w =>
    refine (Same.inside (seq.startResume w.inner reply)).bind fun p => ?_
    cases p with
    | done result => exact (crew.same_resumeRetry w result).bind fun _ => .pure _
    | waiting inner => exact .pure _
  | telling w =>
    refine (Same.inside (seq.tellResume w.inner reply)).bind fun p => ?_
    cases p with
    | done =>
      refine Same.bind (.get_bind fun s => ?_) fun _ => .pure _
      rw [crew.positionsFrom_recorded]
      exact crew.same_round w.change _
    | waiting inner => exact .pure _

end Same

end Gamebook.Crew
