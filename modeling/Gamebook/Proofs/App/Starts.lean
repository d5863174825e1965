import Gamebook.Proofs.App.Answers
import Gamebook.Proofs.App.Delivery
import Gamebook.Proofs.Portion
import Gamebook.Proofs.Roster.Crossing

/-! Collaborators of a player while they are started, told, retried and disabled by calls that overlap. What holds
of the calls to its crew, in `Crew.lawful_unless_crossed`, holds of the calls to the player that come to the same:
`exists_lawful_unless_crossed`. -/
namespace Gamebook

open Crew (Order Outcome)

namespace App

def sequel (c : Settings) : Crew.Sequel App Catalog.Preloading Mounting where
  startRequest w := w.request
  startResume w reply := do return .done (started (← cataloguing (w.resume reply)))
  tellRequest w := w.request
  tellResume w reply := do return (← reading (w.resume c.story reply)).map id fun _ => ()

def ofPending : Crew.Pending Catalog.Preloading Mounting → Waiting
  | .sweeping w => .starting w
  | .retrying w => .retrying w
  | .telling w => .notifying w

def ofOutcome : Outcome → Answer
  | .started failed => .started failed
  | .status status => .status status
  | .disabled _ => .nothing
  | .told => .nothing

/-- The calls to a player that only its crew takes. -/
def ofOrder? : Order → Option Call
  | .startAll => some .startAll
  | .retry name => some (.retry name)
  | .disable _ => none
  | .notify change => some (.notify change)

theorem begin_ofOrder (c : Settings) {order : Order} {call : Call} (h : ofOrder? order = some call) :
    begin c call = do return (← (crew c).begin order).map ofPending ofOutcome := by
  cases order with
  | startAll =>
    obtain rfl := Option.some.inj h
    simp only [begin, Crew.begin, bind_assoc, pure_bind, Progress.map_map]
    rfl
  | retry name =>
    obtain rfl := Option.some.inj h
    simp only [begin, Crew.begin, bind_assoc, pure_bind, Progress.map_map]
    rfl
  | disable name => cases h
  | notify change =>
    obtain rfl := Option.some.inj h
    simp only [begin, Crew.begin, bind_assoc, pure_bind, Progress.map_map]
    rfl

theorem request_ofPending (c : Settings) (w : Crew.Pending Catalog.Preloading Mounting) :
    w.request (sequel c) = (ofPending w).request := by
  cases w <;> rfl

theorem resume_ofPending (c : Settings) (w : Crew.Pending Catalog.Preloading Mounting)
    (reply : (w.request (sequel c)).Reply) :
    resume c (ofPending w) (request_ofPending c w ▸ reply) =
      do return (← (crew c).resume (sequel c) w reply).map ofPending ofOutcome := by
  cases w with
  | sweeping w =>
    simp only [ofPending, resume, resumeStartAll, Crew.resume, sequel, bind_assoc, pure_bind, Progress.map_map]
    rfl
  | retrying w =>
    simp only [ofPending, resume, resumeRetry, Crew.resume, sequel, bind_assoc, pure_bind, Progress.map]
    rfl
  | telling w =>
    simp only [ofPending, resume, resumeNotify, Crew.resume, sequel, bind_assoc, pure_bind]
    refine congrArg (Bind.bind _) (funext fun p => ?_)
    cases p with
    | done outcome =>
      simp only [Progress.map, bind_assoc, pure_bind]
      refine congrArg (Bind.bind _) (funext fun q => ?_)
      cases q <;> rfl
    | waiting inner => rfl

def crewPortion (c : Settings) : Protocol.Portion ((crew c).protocol (sequel c)) (protocol c) where
  call? := ofOrder?
  wait := ofPending
  answer := ofOutcome
  begin := begin_ofOrder c
  request := request_ofPending c
  resume := resume_ofPending c
  ready := fun _ => rfl

theorem discreet_crew (c : Settings) : (crew c).Discreet (sequel c) where
  withRoster _ _ := rfl
  start who := by
    cases who with
    | catalog => exact fun _ => rfl
    | story => exact fun _ => rfl
  tell who change := by
    cases who with
    | catalog => exact fun _ => rfl
    | story => exact fun _ => rfl
  startResume w reply := fun _ => rfl
  tellResume w reply := fun _ => rfl

/-- Calls to a player that start its collaborators and tell them of transitions are calls to its crew, in which each
collaborator is treated lawfully as long as no call crosses a start of it. -/
theorem exists_lawful_unless_crossed {c : Settings} {a : App} {answers : (r : Request) → r.Reply → Prop}
    {es : List (protocol c).Event} {f : (protocol c).Flight}
    (ht : (protocol c).Trace (fun call => ∃ order, ofOrder? order = some call) answers ⟨a, []⟩ es f) :
    ∃ es' f', List.Forall₂ (crewPortion c).Event es' es ∧ (crewPortion c).Flight f' f ∧ ∀ i,
      (¬ Crew.Crossed i es' → Crew.Lawful i es') ∧
      (¬ Crew.Busy i f' → (Crew.Lawful i es' ↔ ¬ Crew.Crossed i es')) := by
  have hstart : (crewPortion c).Flight ⟨a, []⟩ ⟨a, []⟩ := ⟨rfl, .nil⟩
  obtain ⟨es', f', ht', hes, hf⟩ := Protocol.Portion.exists_trace hstart ht
  refine ⟨es', f', hes, hf, fun i => ⟨fun huncrossed => ?_, Crew.lawful_iff_uncrossed (discreet_crew c) ht'⟩⟩
  exact (Crew.orderly_of_uncrossed (discreet_crew c) ht' huncrossed).lawful

end App

/-- As long as no call crosses a start of a collaborator, the collaborator is treated lawfully; and once all
its starts have ended, only then. -/
theorem Crew.lawful_unless_crossed {κ σ ω π : Type} {crew : Crew κ σ ω π} {seq : Crew.Sequel σ ω π}
    (h : crew.Discreet seq) {allowed : Order → Prop} {answers : (r : Request) → r.Reply → Prop} {s : σ}
    {es : List (crew.protocol seq).Event} {f : (crew.protocol seq).Flight}
    (ht : (crew.protocol seq).Trace allowed answers ⟨s, []⟩ es f) (i : Nat) :
    (¬ Crossed i es → Lawful i es) ∧ (¬ Busy i f → (Lawful i es ↔ ¬ Crossed i es)) := by
  exact ⟨fun huncrossed => (orderly_of_uncrossed h ht huncrossed).lawful, lawful_iff_uncrossed h ht⟩

namespace App

def crewEvents (moves : List (Protocol.Move Order)) : List ((crew {}).protocol (sequel {})).Event :=
  Protocol.Flight.events (P := (crew {}).protocol (sequel {})) (sourceOf packDocs) ⟨ofCatalog packCatalog, []⟩ moves

def crewFlight (moves : List (Protocol.Move Order)) : ((crew {}).protocol (sequel {})).Flight :=
  Protocol.Flight.play (P := (crew {}).protocol (sequel {})) (sourceOf packDocs) ⟨ofCatalog packCatalog, []⟩ moves

theorem trace_crewEvents (moves : List (Protocol.Move Order)) :
    ((crew {}).protocol (sequel {})).Trace (fun _ => True) (Fixed packDocs) ⟨ofCatalog packCatalog, []⟩
      (crewEvents moves) (crewFlight moves) :=
  Protocol.trace_script (fixed_sourceOf packDocs) fun _ _ => trivial

/-- The catalog waits for its document, is told nothing yet, is active and told, and is then disabled. -/
def inOrder : List (Protocol.Move Order) :=
  [.begin .startAll, .begin (.notify ⟨⟨"hall"⟩, 1⟩), .resume 0, .begin (.notify ⟨⟨"hall"⟩, 2⟩),
    .begin (.disable "catalog"), .begin (.retry "catalog"), .begin (.notify ⟨⟨"hall"⟩, 3⟩)]

theorem lawful_unless_crossed_in_order :
    (crew {}).Discreet (sequel {}) ∧
    ((crew {}).protocol (sequel {})).Trace (fun _ => True) (Fixed packDocs) ⟨ofCatalog packCatalog, []⟩
      (crewEvents inOrder) (crewFlight inOrder) ∧
    ¬ Crew.Crossed 0 (crewEvents inOrder) ∧ ¬ Crew.Busy 0 (crewFlight inOrder) ∧
    Crew.Lawful 0 (crewEvents inOrder) ∧
    (crewEvents inOrder).map (Crew.starts · 0) = [0, 0, 0, 0, 0, 0, 1] ∧
    (crewEvents inOrder).map (Crew.told · 0) = [[], [], [], [⟨⟨"hall"⟩, 2⟩], [], [], []] ∧
    (crewEvents inOrder).map Crew.disabled? = [none, none, some 0, none, none, none, none] := by
  have huncrossed : ¬ Crew.Crossed 0 (crewEvents inOrder) := by decide +kernel
  have hidle : ¬ Crew.Busy 0 (crewFlight inOrder) := by decide +kernel
  have hlawful := Crew.lawful_unless_crossed (discreet_crew {}) (trace_crewEvents inOrder) 0
  refine ⟨discreet_crew {}, trace_crewEvents inOrder, huncrossed, hidle, (hlawful.2 hidle).2 huncrossed, ?_⟩
  decide +kernel

/-- The catalog is disabled while it waits for its document. -/
def acrossTheStart : List (Protocol.Move Order) :=
  [.begin .startAll, .begin (.disable "catalog"), .resume 0]

/-- It is active in the end, and would be told of the next transition. -/
theorem disabled_while_starting :
    ((crew {}).protocol (sequel {})).Trace (fun _ => True) (Fixed packDocs) ⟨ofCatalog packCatalog, []⟩
      (crewEvents acrossTheStart) (crewFlight acrossTheStart) ∧
    (crewFlight acrossTheStart).Quiet ∧
    (crewFlight acrossTheStart).courses.map (·.standing) =
      [.done (.started 0), .done (.disabled true)] ∧
    (crew {}).status? (crewFlight acrossTheStart).state "catalog" = some .active ∧
    ¬ Crew.Lawful 0 (crewEvents acrossTheStart) := by
  have hquiet : (crewFlight acrossTheStart).Quiet := by
    unfold Protocol.Flight.Quiet
    decide +kernel
  have hcrossed : Crew.Crossed 0 (crewEvents acrossTheStart) := by decide +kernel
  have hidle : ¬ Crew.Busy 0 (crewFlight acrossTheStart) := by decide +kernel
  refine ⟨trace_crewEvents _, hquiet, by decide +kernel, by decide +kernel, fun hlawful => hidle ?_⟩
  exact (Crew.busy_of_crossed (discreet_crew {}) (trace_crewEvents _) hlawful hcrossed).1

end App
end Gamebook
