import Gamebook.Proofs.Roster.Calls

/-! What a step of a call does to one collaborator, whatever it does to the others: `Deed` lists it. A sweep
or a round comes to each collaborator once, so what it does to one of them it does in one place. -/
namespace Gamebook.Crew

open Roster

variable {κ σ ω π : Type}

/-- What is seen of a collaborator: its status, how often it was started, and what it was told of. -/
structure View where
  status : Option Status
  starts : Nat
  told : List ScreenChange

namespace View

/-- A status is only given to a collaborator that there is. -/
def marked (v : View) (status : Status) : View := { v with status := v.status.map fun _ => status }

def started (v : View) : View := { v with starts := v.starts + 1 }

def hears (v : View) (change : ScreenChange) : View := { v with told := v.told ++ [change] }

theorem marked_of_none {v : View} {status : Status} (h : v.status = none) : v.marked status = v := by
  simp only [marked, h, Option.map_none]
  rw [← h]

end View

inductive Ended : Status → Prop
  | active : Ended .active
  | failed (text : String) : Ended (.failed text)

/-- What a step that disables nobody does to a collaborator. The numbers say for how many starts of it the
call waits, before and after. -/
inductive Deed (v : View) : View → Nat → Nat → Prop
  | rest (n : Nat) : Deed v v n n
  | ask {status : Status} : v.status = some status → status.canRetry = true → Deed v v.started 0 1
  | start {status status' : Status} : v.status = some status → status.canRetry = true → Ended status' →
      Deed v (v.started.marked status') 0 0
  | ends {status : Status} : Ended status → Deed v (v.marked status) 1 0
  | hear {change : ScreenChange} : v.status = some .active → Deed v (v.hears change) 0 0

theorem nodup_positionsFrom (r : Roster κ) (k : Nat) : (r.positionsFrom k).Nodup :=
  List.nodup_range.sublist (List.drop_sublist _ _)

theorem le_of_mem_positionsFrom {r : Roster κ} {j k : Nat} (hj : j ∈ r.positionsFrom k) : k ≤ j := by
  obtain ⟨n, hn, rfl⟩ := List.mem_iff_getElem.1 hj
  simp [positionsFrom]

def Pending.starts : Pending ω π → Multiset Nat
  | sweeping w => {w.position}
  | retrying w => {w.position}
  | telling _ => 0

/-- For how many starts of a collaborator there is waited. -/
def flying (i : Nat) (waiting : Multiset (Pending ω π)) : Nat := (waiting.bind Pending.starts).count i

section Flying

variable {β : Type} (i : Nat)

@[simp] theorem flying_zero : flying i (0 : Multiset (Pending ω π)) = 0 := by simp [flying]

@[simp] theorem flying_add (ws ws' : Multiset (Pending ω π)) :
    flying i (ws + ws') = flying i ws + flying i ws' := by simp [flying]

theorem flying_singleton (w : Pending ω π) : flying i {w} = w.starts.count i := by simp [flying]

theorem flying_sweeping (f : Nat → β) (p : Progress (Sweep ω) Nat) :
    flying i (p.map (.sweeping : Sweep ω → Pending ω π) f).pending =
      (p.pending.map (·.position)).count i := by
  cases p <;> simp [Progress.map, flying, Pending.starts]

theorem flying_retrying (f : Option Status → β) (p : Progress (Retry ω) (Option Status)) :
    flying i (p.map (.retrying : Retry ω → Pending ω π) f).pending =
      (p.pending.map (·.position)).count i := by
  cases p <;> simp [Progress.map, flying, Pending.starts]

theorem flying_telling (f : Unit → β) (p : Progress (Round π) Unit) :
    flying i (p.map (.telling : Round π → Pending ω π) f).pending = 0 := by
  cases p <;> simp [Progress.map, flying, Pending.starts]

end Flying

variable (crew : Crew κ σ ω π) {seq : Sequel σ ω π} {i j : Nat} {who : κ} {s : Recorded σ}

def view (i : Nat) (s : Recorded σ) : View := ⟨crew.statusAt? s.state i, s.starts i, s.told i⟩

theorem position_sweep {positions : List Nat} {failed : Nat} {s : σ} {w : Sweep ω}
    (hw : w ∈ (crew.sweep failed positions s).value.pending) : w.position ∈ positions := by
  induction positions generalizing failed s with
  | nil => simp [sweep] at hw
  | cons j rest ih =>
    have hskip : w ∈ (crew.sweep failed rest s).value.pending → w.position ∈ j :: rest :=
      fun hw => List.mem_cons_of_mem j (ih hw)
    simp only [sweep, Act.bind_get] at hw
    cases hentry : (crew.roster s)[j]? with
    | none =>
      rw [hentry] at hw
      exact hskip hw
    | some e =>
      obtain ⟨who, status⟩ := e
      rw [hentry] at hw
      cases status with
      | pending =>
        simp only [Act.bind_apply] at hw
        cases hp : (crew.start who s).value with
        | done result =>
          rw [hp] at hw
          exact List.mem_cons_of_mem j (ih hw)
        | waiting v =>
          rw [hp] at hw
          have hwv : w = ⟨j, failed, v⟩ := by simpa using hw
          simp [hwv]
      | active => exact hskip hw
      | failed text => exact hskip hw
      | disabled => exact hskip hw

theorem count_sweep {positions : List Nat} (hi : i ∉ positions) (failed : Nat) (s : σ) :
    ((crew.sweep failed positions s).value.pending.map (·.position)).count i = 0 := by
  rw [Multiset.count_eq_zero]
  intro hmem
  obtain ⟨w, hw, hwi⟩ := Multiset.mem_map.1 hmem
  have hplace := crew.position_sweep hw
  exact hi (hwi ▸ hplace)

variable {crew}

section Parts

variable (h : crew.Discreet seq)

include h

theorem view_start (i : Nat) (who : κ) (s : Recorded σ) :
    crew.view i (crew.recorded.start (i, who) s).state = (crew.view i s).started := by
  have hkeep := h.start who s.state
  simp [recorded, Act.bind_apply, view, statusAt?, View.started, hkeep]

theorem keeps_view_start (hij : j ≠ i) (who : κ) :
    Act.Keeps (crew.view i) (crew.recorded.start (j, who)) := by
  intro s
  have hkeep := h.start who s.state
  simp [recorded, Act.bind_apply, view, statusAt?, hkeep, hij.symm]

theorem view_tell (i : Nat) (who : κ) (change : ScreenChange) (s : Recorded σ) :
    crew.view i (crew.recorded.tell (i, who) change s).state = (crew.view i s).hears change := by
  have hkeep := h.tell who change s.state
  simp [recorded, Act.bind_apply, view, statusAt?, View.hears, hkeep]

theorem keeps_view_tell (hij : j ≠ i) (who : κ) (change : ScreenChange) :
    Act.Keeps (crew.view i) (crew.recorded.tell (j, who) change) := by
  intro s
  have hkeep := h.tell who change s.state
  simp [recorded, Act.bind_apply, view, statusAt?, hkeep, hij.symm]

theorem statusAt?_mark (j : Nat) (status : Status) (s : σ) : crew.statusAt? (crew.mark j status s).state i =
    if j = i then (crew.statusAt? s i).map fun _ => status else crew.statusAt? s i := by
  have hroster : crew.roster (crew.mark j status s).state = (crew.roster s).setStatus j status :=
    h.withRoster _ s
  simp only [statusAt?, hroster, setStatus, List.getElem?_modify, Option.map_map]
  by_cases hij : j = i <;> simp [hij, Function.comp_def]

theorem view_mark (i : Nat) (status : Status) (s : Recorded σ) :
    crew.view i (crew.recorded.mark i status s).state = (crew.view i s).marked status := by
  have hstate := (crew.same_mark i status).state s
  simp only [view, View.marked, hstate, statusAt?_mark h, if_pos]
  rfl

theorem keeps_view_mark (hij : j ≠ i) (status : Status) :
    Act.Keeps (crew.view i) (crew.recorded.mark j status) := by
  intro s
  have hstate := (crew.same_mark j status).state s
  simp only [view, hstate, statusAt?_mark h, if_neg hij]
  rfl

/-- However a start ends, its collaborator is left active or failed, also one that was disabled meanwhile. -/
theorem view_settle (i : Nat) (who : Nat × κ) (result : Except StartFault Unit) (s : Recorded σ) :
    ∃ status, Ended status ∧
      crew.view i (crew.recorded.settle i who result s).state = (crew.view i s).marked status := by
  cases result with
  | ok => exact ⟨.active, .active, view_mark h i .active s⟩
  | error fault => exact ⟨.failed fault.message, .failed _, view_mark h i (.failed fault.message) s⟩

theorem keeps_view_settle (hij : j ≠ i) (who : Nat × κ) (result : Except StartFault Unit) :
    Act.Keeps (crew.view i) (crew.recorded.settle j who result) := by
  cases result with
  | ok => exact (keeps_view_mark h hij .active).bind fun _ => .pure 0
  | error fault => exact (Act.Keeps.give _).bind fun _ => (keeps_view_mark h hij _).bind fun _ => .pure 1

theorem deed_start {status : Status} (hstatus : crew.statusAt? s.state i = some status)
    (hretry : status.canRetry = true) (who : κ) :
    match (crew.recorded.start (i, who) s).value with
    | .done result => Deed (crew.view i s) (crew.view i (crew.recorded.settle i (i, who) result
        (crew.recorded.start (i, who) s).state).state) 0 0
    | .waiting _ => Deed (crew.view i s) (crew.view i (crew.recorded.start (i, who) s).state) 0 1 := by
  have hstarted := view_start h i who s
  cases (crew.recorded.start (i, who) s).value with
  | waiting w =>
    dsimp only
    rw [hstarted]
    exact .ask hstatus hretry
  | done result =>
    dsimp only
    have hsettled := view_settle h i (i, who) result (crew.recorded.start (i, who) s).state
    obtain ⟨status', hended, hview⟩ := hsettled
    rw [hview, hstarted]
    exact .start hstatus hretry hended

theorem keeps_view_sweep {positions : List Nat} (hi : i ∉ positions) (failed : Nat) :
    Act.Keeps (crew.view i) (crew.recorded.sweep failed positions) := by
  induction positions generalizing failed with
  | nil => exact .pure _
  | cons j rest ih =>
    have hij : j ≠ i := by
      intro hji
      simp [hji] at hi
    have hrest : i ∉ rest := by simp_all
    refine .get_bind fun s => ?_
    rw [crew.getElem?_recorded]
    cases (crew.roster s.state)[j]? with
    | none => exact ih hrest failed
    | some e =>
      obtain ⟨who, status⟩ := e
      cases status with
      | pending =>
        refine (keeps_view_start h hij who).bind fun p => ?_
        cases p with
        | done result => exact (keeps_view_settle h hij _ result).bind fun n => ih hrest _
        | waiting w => exact .pure _
      | active => exact ih hrest failed
      | failed text => exact ih hrest failed
      | disabled => exact ih hrest failed

/-- A sweep comes to a collaborator once. -/
theorem deed_sweep {positions : List Nat} (hnodup : positions.Nodup) (failed : Nat) (s : Recorded σ) :
    Deed (crew.view i s) (crew.view i (crew.recorded.sweep failed positions s).state) 0
      (((crew.recorded.sweep failed positions s).value.pending.map (·.position)).count i) := by
  induction positions generalizing failed s with
  | nil => exact .rest 0
  | cons j rest ih =>
    have hrest : j ∉ rest ∧ rest.Nodup := List.nodup_cons.1 hnodup
    simp only [sweep, Act.bind_get]
    rw [crew.getElem?_recorded]
    cases hentry : (crew.roster s.state)[j]? with
    | none => exact ih hrest.2 failed s
    | some e =>
      obtain ⟨who, status⟩ := e
      cases status with
      | pending =>
        simp only [Option.map_some, Act.bind_apply]
        by_cases hij : j = i
        · have hstatus : crew.statusAt? s.state i = some .pending := by simp [statusAt?, ← hij, hentry]
          have hdeed := deed_start h hstatus rfl who
          rw [hij] at hrest ⊢
          cases hp : (crew.recorded.start (i, who) s).value with
          | done result =>
            rw [hp] at hdeed
            dsimp only
            rw [Act.bind_apply]
            have hkeep := keeps_view_sweep h hrest.1
            rw [hkeep, crew.recorded.count_sweep hrest.1]
            exact hdeed
          | waiting w =>
            rw [hp] at hdeed
            simpa using hdeed
        · have hkeep := keeps_view_start h hij who s
          cases hp : (crew.recorded.start (j, who) s).value with
          | done result =>
            dsimp only
            rw [Act.bind_apply]
            have hkeep' := keeps_view_settle h hij (j, who) result (crew.recorded.start (j, who) s).state
            rw [← hkeep, ← hkeep']
            exact ih hrest.2 _ _
          | waiting w =>
            have hdeed : Deed (crew.view i s) (crew.view i s) 0 0 := .rest 0
            rw [← hkeep] at hdeed
            simpa [hij, Ne.symm hij, Multiset.count_singleton, hkeep] using hdeed
      | active => exact ih hrest.2 failed s
      | failed text => exact ih hrest.2 failed s
      | disabled => exact ih hrest.2 failed s

/-- Who is disabled or has been started is left alone, so a retry is settled at once, or waited for. -/
theorem deed_retry (name : String) (s : Recorded σ) :
    Deed (crew.view i s) (crew.view i (crew.recorded.retry name s).state) 0
      (((crew.recorded.retry name s).value.pending.map (·.position)).count i) := by
  simp only [retry, Act.bind_get]
  cases hfind : crew.recorded.find? s name with
  | none => exact .rest 0
  | some j =>
    dsimp only
    rw [crew.getElem?_recorded]
    cases hentry : (crew.roster s.state)[j]? with
    | none => exact .rest 0
    | some e =>
      simp only [Option.map_some]
      by_cases hretry : e.status.canRetry = true
      · rw [if_pos hretry]
        simp only [Act.bind_apply]
        by_cases hij : j = i
        · have hstatus : crew.statusAt? s.state i = some e.status := by simp [statusAt?, ← hij, hentry]
          have hdeed := deed_start h hstatus hretry e.who
          rw [hij]
          cases hp : (crew.recorded.start (i, e.who) s).value with
          | done result =>
            rw [hp] at hdeed
            exact hdeed
          | waiting w =>
            rw [hp] at hdeed
            simpa using hdeed
        · have hkeep := keeps_view_start h hij e.who s
          have hdeed : Deed (crew.view i s) (crew.view i s) 0 0 := .rest 0
          cases hp : (crew.recorded.start (j, e.who) s).value with
          | done result =>
            have hkeep' := keeps_view_settle h hij (j, e.who) result (crew.recorded.start (j, e.who) s).state
            rw [← hkeep'.trans hkeep] at hdeed ⊢
            exact .rest 0
          | waiting w => simpa [Ne.symm hij, Multiset.count_singleton, hkeep] using hdeed
      · rw [if_neg hretry]
        exact .rest 0

theorem keeps_view_round {positions : List Nat} (hi : i ∉ positions) (change : ScreenChange) :
    Act.Keeps (crew.view i) (crew.recorded.round change positions) := by
  induction positions with
  | nil => exact .pure _
  | cons j rest ih =>
    have hij : j ≠ i := by
      intro hji
      simp [hji] at hi
    have hrest : i ∉ rest := by simp_all
    refine .get_bind fun s => ?_
    rw [crew.getElem?_recorded]
    cases (crew.roster s.state)[j]? with
    | none => exact ih hrest
    | some e =>
      obtain ⟨who, status⟩ := e
      cases status with
      | active =>
        refine (keeps_view_tell h hij who change).bind fun p => ?_
        cases p with
        | done => exact ih hrest
        | waiting w => exact .pure _
      | pending => exact ih hrest
      | failed text => exact ih hrest
      | disabled => exact ih hrest

theorem deed_round {positions : List Nat} (hnodup : positions.Nodup) (change : ScreenChange)
    (s : Recorded σ) :
    Deed (crew.view i s) (crew.view i (crew.recorded.round change positions s).state) 0 0 := by
  induction positions generalizing s with
  | nil => exact .rest 0
  | cons j rest ih =>
    have hrest : j ∉ rest ∧ rest.Nodup := List.nodup_cons.1 hnodup
    simp only [round, Act.bind_get]
    rw [crew.getElem?_recorded]
    cases hentry : (crew.roster s.state)[j]? with
    | none => exact ih hrest.2 s
    | some e =>
      obtain ⟨who, status⟩ := e
      cases status with
      | active =>
        simp only [Option.map_some, Act.bind_apply]
        by_cases hij : j = i
        · have hstatus : crew.statusAt? s.state i = some .active := by simp [statusAt?, ← hij, hentry]
          have hdeed : Deed (crew.view i s) ((crew.view i s).hears change) 0 0 := .hear hstatus
          rw [hij] at hrest ⊢
          rw [← view_tell h i who change s] at hdeed
          cases hp : (crew.recorded.tell (i, who) change s).value with
          | done =>
            dsimp only
            rw [keeps_view_round h hrest.1]
            exact hdeed
          | waiting w => exact hdeed
        · have hkeep := keeps_view_tell h hij who change s
          rw [← hkeep]
          cases hp : (crew.recorded.tell (j, who) change s).value with
          | done => exact ih hrest.2 _
          | waiting w => exact .rest 0
      | pending => exact ih hrest.2 s
      | failed text => exact ih hrest.2 s
      | disabled => exact ih hrest.2 s

theorem deed_settle (j : Nat) (who : Nat × κ) (result : Except StartFault Unit) (s : Recorded σ) :
    Deed (crew.view i s) (crew.view i (crew.recorded.settle j who result s).state)
      (Multiset.count i {j}) 0 := by
  by_cases hij : j = i
  · rw [hij, Multiset.count_singleton_self]
    obtain ⟨status, hended, hview⟩ := view_settle h i who result s
    rw [hview]
    exact .ends hended
  · have hkeep := keeps_view_settle h hij who result s
    rw [hkeep, Multiset.count_singleton, if_neg (Ne.symm hij)]
    exact .rest 0

omit h in
theorem deed_gone (hnone : (crew.roster s.state)[j]? = none) :
    Deed (crew.view i s) (crew.view i s) (Multiset.count i {j}) 0 := by
  by_cases hij : j = i
  · have hstatus : (crew.view i s).status = none := by simp [view, statusAt?, ← hij, hnone]
    have hdeed : Deed (crew.view i s) ((crew.view i s).marked .active) 1 0 := .ends .active
    rw [View.marked_of_none hstatus] at hdeed
    rw [hij, Multiset.count_singleton_self]
    exact hdeed
  · rw [Multiset.count_singleton, if_neg (Ne.symm hij)]
    exact .rest 0

theorem deed_resumeSweep (w : Sweep ω) (result : Except StartFault Unit) (s : Recorded σ) :
    Deed (crew.view i s) (crew.view i (crew.recorded.resumeSweep w result s).state)
      (Multiset.count i {w.position})
      (((crew.recorded.resumeSweep w result s).value.pending.map (·.position)).count i) := by
  simp only [resumeSweep, Act.bind_get]
  rw [crew.getElem?_recorded, crew.positionsFrom_recorded]
  cases hentry : (crew.roster s.state)[w.position]? with
  | none => exact deed_gone hentry
  | some e =>
    simp only [Option.map_some, Act.bind_apply]
    have hsettled := deed_settle (i := i) h w.position (w.position, e.who) result s
    by_cases hi : w.position = i
    · have hbehind : i ∉ (crew.roster s.state).positionsFrom (w.position + 1) := by
        intro hmem
        have hle := le_of_mem_positionsFrom hmem
        omega
      rw [keeps_view_sweep h hbehind, crew.recorded.count_sweep hbehind]
      exact hsettled
    · have hkeep := keeps_view_settle h hi (w.position, e.who) result s
      rw [← hkeep, Multiset.count_singleton, if_neg (Ne.symm hi)]
      exact deed_sweep h (nodup_positionsFrom _ _) _ _

theorem deed_resumeRetry (w : Retry ω) (result : Except StartFault Unit) (s : Recorded σ) :
    Deed (crew.view i s) (crew.view i (crew.recorded.resumeRetry w result s).state)
      (Multiset.count i {w.position}) 0 := by
  simp only [resumeRetry, Act.bind_get]
  rw [crew.getElem?_recorded]
  cases hentry : (crew.roster s.state)[w.position]? with
  | none => exact deed_gone hentry
  | some e => exact deed_settle h w.position (w.position, e.who) result s

omit h in
theorem keeps_view_inside {α : Type} {x : Act σ α} (hx : Act.Keeps crew.roster x) :
    Act.Keeps (crew.view i) (Recorded.inside x) := by
  intro s
  simp [view, statusAt?, hx s.state]

/-- What a call does to a collaborator when it is begun; a call that disables is left out. -/
theorem deed_begin {order : Order} (horder : ∀ name, order ≠ .disable name) (s : Recorded σ) :
    Deed (crew.view i s) (crew.view i (crew.recorded.begin order s).state) 0
      (flying i (crew.recorded.begin order s).value.pending) := by
  cases order with
  | startAll =>
    simp only [begin, Act.bind_apply, Act.pure_apply, flying_sweeping]
    exact deed_sweep h (nodup_positionsFrom _ 0) 0 s
  | retry name =>
    simp only [begin, Act.bind_apply, Act.pure_apply, flying_retrying]
    exact deed_retry h name s
  | disable name => exact absurd rfl (horder name)
  | notify change =>
    simp only [begin, Act.bind_apply, Act.pure_apply, flying_telling]
    exact deed_round h (nodup_positionsFrom _ 0) change s

theorem deed_resume (w : Pending ω π) (reply : (w.request seq.recorded).Reply) (s : Recorded σ) :
    Deed (crew.view i s) (crew.view i (crew.recorded.resume seq.recorded w reply s).state)
      (flying i {w}) (flying i (crew.recorded.resume seq.recorded w reply s).value.pending) := by
  rw [flying_singleton]
  cases w with
  | sweeping w =>
    have hkeep : Act.Keeps (crew.view i) (seq.recorded.startResume w.inner reply) :=
      keeps_view_inside (h.startResume w.inner reply)
    simp only [resume, Act.bind_apply]
    rw [← hkeep s]
    cases (seq.recorded.startResume w.inner reply s).value with
    | done result =>
      simp only [Act.bind_apply, Act.pure_apply, flying_sweeping]
      exact deed_resumeSweep h w result _
    | waiting inner =>
      simp only [Act.pure_apply, Progress.pending_waiting, flying_singleton]
      exact .rest _
  | retrying w =>
    have hkeep : Act.Keeps (crew.view i) (seq.recorded.startResume w.inner reply) :=
      keeps_view_inside (h.startResume w.inner reply)
    simp only [resume, Act.bind_apply]
    rw [← hkeep s]
    cases (seq.recorded.startResume w.inner reply s).value with
    | done result =>
      simp only [Act.bind_apply, Act.pure_apply, Progress.pending_done, flying_zero]
      exact deed_resumeRetry h w result _
    | waiting inner =>
      simp only [Act.pure_apply, Progress.pending_waiting, flying_singleton]
      exact .rest _
  | telling w =>
    have hkeep : Act.Keeps (crew.view i) (seq.recorded.tellResume w.inner reply) :=
      keeps_view_inside (h.tellResume w.inner reply)
    simp only [resume, Act.bind_apply]
    rw [← hkeep s]
    cases (seq.recorded.tellResume w.inner reply s).value with
    | done =>
      simp only [Act.bind_apply, Act.pure_apply, flying_telling]
      exact deed_round h (nodup_positionsFrom _ _) w.change _
    | waiting inner =>
      simp only [Act.pure_apply, Progress.pending_waiting, flying_singleton]
      exact .rest _

/-- Who is disabled is disabled from now on, whatever is under way. -/
theorem begin_disable {name : String} (hi : crew.find? s.state name = some j) :
    (crew.recorded.begin (.disable name) s).value = .done (.disabled true) ∧
      crew.view i (crew.recorded.begin (.disable name) s).state =
        if j = i then (crew.view i s).marked .disabled else crew.view i s := by
  rw [← crew.find?_recorded] at hi
  simp only [begin, disable, Act.bind_apply, Act.get_apply, hi, Act.pure_apply, true_and]
  by_cases hij : j = i
  · rw [if_pos hij, hij]
    exact view_mark h i .disabled s
  · rw [if_neg hij]
    exact keeps_view_mark h hij .disabled s

omit h in
theorem begin_disable_unknown {name : String} (hnone : crew.find? s.state name = none) :
    crew.recorded.begin (.disable name) s = ⟨s, [], .done (.disabled false)⟩ := by
  rw [← crew.find?_recorded] at hnone
  simp only [begin, disable, Act.bind_apply, Act.get_apply, hnone, Act.pure_apply]
  rfl

end Parts

end Gamebook.Crew
