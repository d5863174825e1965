import Gamebook.Proofs.Roster.Steps

/-! What calls to a crew come to when they cross. A collaborator whose start has to wait may meanwhile be
started once more, or be disabled; the first start then ends all the same, and its outcome is noted. As long as
neither happens all is in order, which `Orderly` says. -/
namespace Gamebook.Crew

open Roster

variable {κ σ ω π : Type} {crew : Crew κ σ ω π} {seq : Sequel σ ω π}

/-- What a step asks of the collaborators: the crew that keeps a record takes the same step. -/
def record (e : (crew.protocol seq).Event) : Recorded σ :=
  match e.exchange?, e.course? with
  | some ⟨w, reply⟩, _ => (crew.recorded.resume seq.recorded w reply (.blank e.before.state)).state
  | none, some course => (crew.recorded.begin course.call (.blank e.before.state)).state
  | none, none => .blank e.before.state

def starts (e : (crew.protocol seq).Event) (i : Nat) : Nat := (record e).starts i

def told (e : (crew.protocol seq).Event) (i : Nat) : List ScreenChange := (record e).told i

/-- The collaborator that was disabled, when a call returns that it was; such a call takes one step only. -/
def disabled? (e : (crew.protocol seq).Event) : Option Nat :=
  match e.exchange?, e.course?.map (·.call), e.answer? with
  | none, some (Order.disable name), some (Outcome.disabled true) => crew.find? e.before.state name
  | _, _, _ => none

/-- A start of a collaborator is under way. -/
def Busy (i : Nat) (f : (crew.protocol seq).Flight) : Prop := 0 < flying i f.pending

/-- While a start of it is under way, a collaborator is started once more or disabled. -/
def Crossed (i : Nat) (es : List (crew.protocol seq).Event) : Prop :=
  ∃ e ∈ es, Busy i e.before ∧ (0 < starts e i ∨ disabled? e = some i)

instance (i : Nat) (f : (crew.protocol seq).Flight) : Decidable (Busy i f) := Nat.decLt _ _

instance (i : Nat) (es : List (crew.protocol seq).Event) : Decidable (Crossed i es) :=
  inferInstanceAs (Decidable (∃ e ∈ es, Busy i e.before ∧ (0 < starts e i ∨ disabled? e = some i)))

/-- How a collaborator is treated: who was disabled stays so and is told nothing more; who is active stays so
or is disabled; and nobody is started while it is being started, or after it was once active. -/
structure Lawful (i : Nat) (es : List (crew.protocol seq).Event) : Prop where
  disabled : ∀ e ∈ es, disabled? e = some i → crew.statusAt? e.after.state i = some .disabled
  stays : es.Pairwise fun later earlier => disabled? earlier = some i →
    crew.statusAt? later.after.state i = some .disabled ∧ told later i = []
  active : ∀ e ∈ es, crew.statusAt? e.before.state i = some .active →
    crew.statusAt? e.after.state i = some .active ∨ crew.statusAt? e.after.state i = some .disabled
  alone : ∀ e ∈ es, 0 < starts e i → starts e i = 1 ∧ ¬ Busy i e.before
  settled : es.Pairwise fun later earlier => crew.statusAt? earlier.after.state i = some .active →
    starts later i = 0

section Events

variable {allowed : Order → Prop} {answers : (r : Request) → r.Reply → Prop} {i : Nat}
variable {e : (crew.protocol seq).Event}

def unseen (i : Nat) (e : (crew.protocol seq).Event) : View := ⟨crew.statusAt? e.before.state i, 0, []⟩

def seen (i : Nat) (e : (crew.protocol seq).Event) : View :=
  ⟨crew.statusAt? e.after.state i, starts e i, told e i⟩

/-- Either a collaborator is disabled and nothing else is done to it, or it is not. -/
inductive Treated (i : Nat) (e : (crew.protocol seq).Event) : Prop
  | disabled : disabled? e = some i → crew.statusAt? e.after.state i = some .disabled → starts e i = 0 →
      told e i = [] → flying i e.after.pending = flying i e.before.pending → Treated i e
  | deed {was now : Nat} : disabled? e ≠ some i → Deed (unseen i e) (seen i e) was now →
      flying i e.after.pending + was = flying i e.before.pending + now → Treated i e

theorem record_begun (f : (crew.protocol seq).Flight) (order : Order) :
    record (Protocol.Event.begun (crew.protocol seq) f order) =
      (crew.recorded.begin order (.blank f.state)).state := by
  have hcourse := Protocol.Event.course?_begun (P := crew.protocol seq) f order
  simp only [record, hcourse]
  rfl

theorem disabled?_begun (f : (crew.protocol seq).Flight) (order : Order) :
    disabled? (Protocol.Event.begun (crew.protocol seq) f order) =
      match order with
      | .disable name => crew.find? f.state name
      | _ => none := by
  have hcourse := Protocol.Event.course?_begun (P := crew.protocol seq) f order
  cases order with
  | disable name =>
    have hvalue : ((crew.protocol seq).begin (.disable name) f.state).value =
        .done (.disabled (crew.find? f.state name).isSome) := by
      simp only [protocol, begin, disable, Act.bind_apply, Act.get_apply]
      cases crew.find? f.state name <;> rfl
    have hanswer := Protocol.Event.answer?_of_done hcourse hvalue
    simp only [disabled?, hcourse, hanswer, Option.map_some, Protocol.Course.ofCall]
    cases hfind : crew.find? f.state name with
    | none => rfl
    | some j => exact hfind
  | _ => simp only [disabled?, hcourse, Option.map_some, Protocol.Course.ofCall]; rfl

theorem exists_status_of_find? {s : σ} {name : String} {j : Nat} (hj : crew.find? s name = some j) :
    ∃ status, crew.statusAt? s j = some status := by
  obtain ⟨hlt, -⟩ := List.findIdx?_eq_some_iff_getElem.1 hj
  exact ⟨(crew.roster s)[j].status, by simp [statusAt?, hlt]⟩

theorem treated_begun (h : crew.Discreet seq) (f : (crew.protocol seq).Flight) (order : Order) (i : Nat) :
    Treated i (Protocol.Event.begun (crew.protocol seq) f order) := by
  have hsame := crew.same_begin order
  have hstate := hsame.state (.blank f.state)
  have hvalue := hsame.value (.blank f.state)
  have hpending := Protocol.Event.pending_begun (P := crew.protocol seq) f order
  have hflying : flying i (Protocol.Event.begun (crew.protocol seq) f order).after.pending =
      flying i (crew.recorded.begin order (.blank f.state)).value.pending + flying i f.pending := by
    rw [hpending, flying_add, hvalue]
    rfl
  have hview : crew.view i (crew.recorded.begin order (.blank f.state)).state =
      seen i (Protocol.Event.begun (crew.protocol seq) f order) := by
    simp only [view, seen, starts, told, record_begun, hstate]
    rfl
  have hdisabled := disabled?_begun f order
  by_cases horder : ∀ name, order ≠ .disable name
  · have hdeed := deed_begin (i := i) h horder (.blank f.state)
    rw [hview] at hdeed
    refine .deed ?_ hdeed ?_
    · rw [hdisabled]
      cases order with
      | disable name => exact absurd rfl (horder name)
      | startAll => simp
      | retry name => simp
      | notify change => simp
    · rw [hflying, add_zero, add_comm]
      rfl
  · simp only [not_forall, not_not] at horder
    obtain ⟨name, rfl⟩ := horder
    cases hfind : crew.find? f.state name with
    | none =>
      have hdeed : Deed (crew.view i (.blank f.state))
          (crew.view i (crew.recorded.begin (.disable name) (.blank f.state)).state) 0 0 := by
        rw [begin_disable_unknown (s := .blank f.state) hfind]
        exact .rest 0
      rw [hview] at hdeed
      refine .deed ?_ hdeed ?_
      · simp [hdisabled, hfind]
      · rw [hflying, begin_disable_unknown (s := .blank f.state) hfind, Progress.pending_done, flying_zero]
        simp [Protocol.Event.begun]
    | some j =>
      obtain ⟨hdone, hseen⟩ := begin_disable (i := i) h (s := .blank f.state) hfind
      have hsame : flying i (Protocol.Event.begun (crew.protocol seq) f (.disable name)).after.pending =
          flying i f.pending := by
        rw [hflying, hdone, Progress.pending_done, flying_zero, zero_add]
      rw [hview] at hseen
      by_cases hj : j = i
      · rw [if_pos hj] at hseen
        obtain ⟨status, hstatus⟩ := exists_status_of_find? (hj ▸ hfind)
        have hmarked : ((crew.view i (.blank f.state)).marked .disabled).status = some .disabled := by
          simp [View.marked, view, Recorded.blank, hstatus]
        rw [← hseen] at hmarked
        exact .disabled (by simp [hdisabled, hfind, hj]) hmarked (congrArg View.starts hseen)
          (congrArg View.told hseen) hsame
      · rw [if_neg hj] at hseen
        have hdeed : Deed (unseen i (Protocol.Event.begun (crew.protocol seq) f (.disable name)))
            (seen i (Protocol.Event.begun (crew.protocol seq) f (.disable name))) 0 0 := by
          rw [hseen]
          exact .rest 0
        exact .deed (by simp [hdisabled, hfind, hj]) hdeed (by rw [hsame]; rfl)

theorem treated_resumed (h : crew.Discreet seq) {s : σ} {before after : List (crew.protocol seq).Course}
    {course : (crew.protocol seq).Course} {w : Pending ω π} (reply : (w.request seq).Reply)
    (hw : course.standing = .waiting w) (i : Nat) :
    Treated i (Protocol.Event.resumed (P := crew.protocol seq) s before course after w reply) := by
  generalize he : Protocol.Event.resumed (P := crew.protocol seq) s before course after w reply = e
  have hsame := crew.same_resume seq w reply
  have hstate : (crew.recorded.resume seq.recorded w reply (.blank s)).state.state = e.after.state := by
    rw [hsame.state, ← he]
    rfl
  have hpending : ∃ others, e.before.pending = {w} + others ∧
      e.after.pending = (crew.recorded.resume seq.recorded w reply (.blank s)).value.pending + others := by
    rw [hsame.value, ← he]
    exact Protocol.Event.pending_resumed reply hw
  have hdeed : Deed (unseen i e) (seen i e) (flying i {w})
      (flying i (crew.recorded.resume seq.recorded w reply (.blank s)).value.pending) := by
    have hrecord : record e = (crew.recorded.resume seq.recorded w reply (.blank s)).state := by
      rw [← he]
      rfl
    have hseen : seen i e = crew.view i (crew.recorded.resume seq.recorded w reply (.blank s)).state := by
      simp only [seen, view, starts, told, hrecord, hstate]
    have hunseen : unseen i e = crew.view i (.blank s) := by
      rw [← he]
      rfl
    rw [hseen, hunseen]
    exact deed_resume h w reply (.blank s)
  obtain ⟨others, hbefore, hafter⟩ := hpending
  refine .deed (by simp [← he, disabled?, Protocol.Event.resumed]) hdeed ?_
  rw [hbefore, hafter, flying_add, flying_add]
  omega

theorem treated_of_happens (h : crew.Discreet seq) (he : e.Happens allowed answers) (i : Nat) :
    Treated i e := by
  cases he with
  | begin f _ => exact treated_begun h f _ i
  | resume reply hw _ _ => exact treated_resumed h reply hw i

variable {es : List (crew.protocol seq).Event} {f : (crew.protocol seq).Flight}

/-- How a collaborator stands as long as it was not crossed: while it is being started it has neither been
active nor been disabled. -/
structure Orderly (i : Nat) (es : List (crew.protocol seq).Event) (f : (crew.protocol seq).Flight) : Prop where
  lawful : Lawful i es
  once : flying i f.pending ≤ 1
  startable : Busy i f → ∃ status, crew.statusAt? f.state i = some status ∧ status.canRetry = true
  succeeded : ∀ e ∈ es, crew.statusAt? e.after.state i = some .active →
    crew.statusAt? f.state i = some .active ∨ crew.statusAt? f.state i = some .disabled
  disabled : ∀ e ∈ es, disabled? e = some i → crew.statusAt? f.state i = some .disabled

theorem Lawful.cons (h : Lawful i es)
    (hdisabled : disabled? e = some i → crew.statusAt? e.after.state i = some .disabled)
    (hstays : ∀ e' ∈ es, disabled? e' = some i →
      crew.statusAt? e.after.state i = some .disabled ∧ told e i = [])
    (hactive : crew.statusAt? e.before.state i = some .active →
      crew.statusAt? e.after.state i = some .active ∨ crew.statusAt? e.after.state i = some .disabled)
    (halone : 0 < starts e i → starts e i = 1 ∧ ¬ Busy i e.before)
    (hsettled : ∀ e' ∈ es, crew.statusAt? e'.after.state i = some .active → starts e i = 0) :
    Lawful i (e :: es) where
  disabled := List.forall_mem_cons.2 ⟨hdisabled, h.disabled⟩
  stays := List.pairwise_cons.2 ⟨hstays, h.stays⟩
  active := List.forall_mem_cons.2 ⟨hactive, h.active⟩
  alone := List.forall_mem_cons.2 ⟨halone, h.alone⟩
  settled := List.pairwise_cons.2 ⟨hsettled, h.settled⟩

theorem Lawful.tail (h : Lawful i (e :: es)) : Lawful i es where
  disabled := (List.forall_mem_cons.1 h.disabled).2
  stays := (List.pairwise_cons.1 h.stays).2
  active := (List.forall_mem_cons.1 h.active).2
  alone := (List.forall_mem_cons.1 h.alone).2
  settled := (List.pairwise_cons.1 h.settled).2

/-- Who may be started has neither been active nor been disabled. -/
theorem Orderly.fresh (h : Orderly i es f) {status : Status}
    (hstatus : crew.statusAt? f.state i = some status) (hretry : status.canRetry = true) :
    (∀ e ∈ es, crew.statusAt? e.after.state i ≠ some .active) ∧ ∀ e ∈ es, disabled? e ≠ some i := by
  constructor
  · intro e he hactive
    rcases h.succeeded e he hactive with hs | hs
    · rw [hstatus] at hs
      cases hs
      cases hretry
    · rw [hstatus] at hs
      cases hs
      cases hretry
  · intro e he hdisabled
    have hs := h.disabled e he hdisabled
    rw [hstatus] at hs
    cases hs
    cases hretry

theorem Orderly.same (h : Orderly i es e.before) (hdis : disabled? e ≠ some i)
    (hstatus : crew.statusAt? e.after.state i = crew.statusAt? e.before.state i) (hstarts : starts e i = 0)
    (htold : crew.statusAt? e.before.state i = some .disabled → told e i = [])
    (hflying : flying i e.after.pending = flying i e.before.pending) : Orderly i (e :: es) e.after := by
  have hlawful : Lawful i (e :: es) := by
    refine h.lawful.cons (fun hd => absurd hd hdis) (fun e' he' hd => ?_) (fun hactive => ?_) (fun hpos => ?_)
      (fun _ _ _ => hstarts)
    · have hbefore := h.disabled e' he' hd
      exact ⟨hstatus.trans hbefore, htold hbefore⟩
    · exact .inl (hstatus.trans hactive)
    · omega
  refine ⟨hlawful, ?_, fun hbusy => ?_, ?_, ?_⟩
  · rw [hflying]
    exact h.once
  · rw [Busy, hflying] at hbusy
    rw [hstatus]
    exact h.startable hbusy
  · refine List.forall_mem_cons.2 ⟨fun hactive => .inl hactive, fun e' he' hactive => ?_⟩
    rw [hstatus]
    exact h.succeeded e' he' hactive
  · refine List.forall_mem_cons.2 ⟨fun hd => absurd hd hdis, fun e' he' hd => ?_⟩
    rw [hstatus]
    exact h.disabled e' he' hd

theorem Orderly.started (h : Orderly i es e.before) (hdis : disabled? e ≠ some i) {status : Status}
    (hstatus : crew.statusAt? e.before.state i = some status) (hretry : status.canRetry = true)
    (halone : 0 < starts e i → starts e i = 1 ∧ ¬ Busy i e.before) (honce : flying i e.after.pending ≤ 1)
    (hstartable : Busy i e.after →
      ∃ status, crew.statusAt? e.after.state i = some status ∧ status.canRetry = true) :
    Orderly i (e :: es) e.after := by
  obtain ⟨hinactive, hable⟩ := h.fresh hstatus hretry
  have hlawful : Lawful i (e :: es) := by
    refine h.lawful.cons (fun hd => absurd hd hdis) (fun e' he' hd => absurd hd (hable e' he')) (fun hactive => ?_)
      halone (fun e' he' hactive => absurd hactive (hinactive e' he'))
    rw [hstatus] at hactive
    cases hactive
    cases hretry
  refine ⟨hlawful, honce, hstartable, ?_, ?_⟩
  · exact List.forall_mem_cons.2 ⟨fun hactive => .inl hactive,
      fun e' he' hactive => absurd hactive (hinactive e' he')⟩
  · exact List.forall_mem_cons.2 ⟨fun hd => absurd hd hdis, fun e' he' hd => absurd hd (hable e' he')⟩

theorem Orderly.step (h : Orderly i es e.before) (ht : Treated i e)
    (huncrossed : ¬ (Busy i e.before ∧ (0 < starts e i ∨ disabled? e = some i))) :
    Orderly i (e :: es) e.after := by
  cases ht with
  | disabled hdis hafter hstarts htold hflying =>
    have hfree : ¬ Busy i e.before := fun hbusy => huncrossed ⟨hbusy, .inr hdis⟩
    refine ⟨h.lawful.cons (fun _ => hafter) (fun _ _ _ => ⟨hafter, htold⟩) (fun _ => .inr hafter) ?_
      (fun _ _ _ => hstarts), ?_, ?_, fun _ _ _ => .inr hafter, fun _ _ _ => hafter⟩
    · intro hpos
      omega
    · rw [hflying]
      exact h.once
    · intro hbusy
      rw [Busy, hflying] at hbusy
      exact absurd hbusy hfree
  | deed hdis hdeed hflying =>
    generalize hv : seen i e = v at hdeed
    have hafter : crew.statusAt? e.after.state i = v.status := congrArg View.status hv
    have hstarts : starts e i = v.starts := congrArg View.starts hv
    have htold : told e i = v.told := congrArg View.told hv
    have honce := h.once
    cases hdeed with
    | rest n => exact h.same hdis hafter hstarts (fun _ => htold) (by omega)
    | hear hstatus =>
      refine h.same hdis hafter hstarts (fun hd => ?_) (by omega)
      have hactive : crew.statusAt? e.before.state i = some .active := hstatus
      rw [hactive] at hd
      cases hd
    | @ask status hstatus hretry =>
      have hone : starts e i = 1 := hstarts
      have hfree : ¬ Busy i e.before := fun hbusy => huncrossed ⟨hbusy, .inl (by omega)⟩
      refine h.started hdis hstatus hretry (fun _ => ⟨hone, hfree⟩) ?_ (fun _ => ⟨status, ?_, hretry⟩)
      · rw [Busy] at hfree
        omega
      · exact hafter.trans hstatus
    | start hstatus hretry hended =>
      have hone : starts e i = 1 := hstarts
      have hfree : ¬ Busy i e.before := fun hbusy => huncrossed ⟨hbusy, .inl (by omega)⟩
      refine h.started hdis hstatus hretry (fun _ => ⟨hone, hfree⟩) (by omega) (fun hbusy => ?_)
      rw [Busy] at hfree hbusy
      omega
    | ends hended =>
      have hnone : starts e i = 0 := hstarts
      have hbusy : Busy i e.before := by
        rw [Busy]
        omega
      obtain ⟨status, hstatus, hretry⟩ := h.startable hbusy
      refine h.started hdis hstatus hretry (fun hpos => ?_) (by omega) (fun hbusy => ?_)
      · omega
      · rw [Busy] at hbusy
        omega

theorem Orderly.start (s : σ) (i : Nat) : Orderly i [] (⟨s, []⟩ : (crew.protocol seq).Flight) := by
  have hidle : flying i (⟨s, []⟩ : (crew.protocol seq).Flight).pending = 0 := flying_zero i
  refine ⟨⟨by simp, by simp, by simp, by simp, by simp⟩, by omega, fun hbusy => ?_, by simp, by simp⟩
  rw [Busy, hidle] at hbusy
  omega

theorem orderly_of_uncrossed (h : crew.Discreet seq) {s : σ}
    (ht : (crew.protocol seq).Trace allowed answers ⟨s, []⟩ es f) (huncrossed : ¬ Crossed i es) :
    Orderly i es f := by
  induction ht with
  | start => exact .start s i
  | @step es e _ he ih =>
    have hrest : ¬ Crossed i es := by
      rintro ⟨e', he', hcross⟩
      exact huncrossed ⟨e', List.mem_cons_of_mem e he', hcross⟩
    have hhere : ¬ (Busy i e.before ∧ (0 < starts e i ∨ disabled? e = some i)) :=
      fun hcross => huncrossed ⟨e, List.mem_cons_self, hcross⟩
    exact (ih hrest).step (treated_of_happens h he i) hhere

/-- A collaborator that was disabled while it was being started stays so only until that start ends. -/
theorem busy_of_crossed (h : crew.Discreet seq) {s : σ}
    (ht : (crew.protocol seq).Trace allowed answers ⟨s, []⟩ es f) (hlawful : Lawful i es)
    (hcrossed : Crossed i es) : Busy i f ∧ crew.statusAt? f.state i = some .disabled := by
  induction ht with
  | start => simp [Crossed] at hcrossed
  | @step es e _ he ih =>
    have htreated := treated_of_happens h he i
    obtain ⟨e', he', hbusy, hcross⟩ := hcrossed
    have hdis : disabled? e' = some i := by
      rcases hcross with hpos | hdis
      · exact absurd hbusy (hlawful.alone e' he' hpos).2
      · exact hdis
    rcases List.mem_cons.1 he' with rfl | he'
    · cases htreated with
      | disabled _ hafter _ _ hflying => exact ⟨by rwa [Busy, hflying], hafter⟩
      | deed hne _ _ => exact absurd hdis hne
    · obtain ⟨hbusy, hstatus⟩ := ih hlawful.tail ⟨e', he', hbusy, .inr hdis⟩
      have hafter := ((List.pairwise_cons.1 hlawful.stays).1 e' he' hdis).1
      refine ⟨?_, hafter⟩
      cases htreated with
      | disabled _ _ _ _ hflying => rwa [Busy, hflying]
      | deed _ hdeed hflying =>
        generalize hv : seen i e = v at hdeed
        have hview : v.status = some .disabled := by
          rw [← hv]
          exact hafter
        rw [Busy] at hbusy ⊢
        -- only the end of the start itself could lower the number, and it leaves another status
        cases hdeed with
        | rest n => omega
        | ask _ _ => omega
        | start _ _ _ => omega
        | hear _ => omega
        | ends hended =>
          simp only [View.marked, unseen, hstatus, Option.map_some] at hview
          cases hview
          cases hended

theorem lawful_iff_uncrossed (h : crew.Discreet seq) {s : σ}
    (ht : (crew.protocol seq).Trace allowed answers ⟨s, []⟩ es f) (hidle : ¬ Busy i f) :
    Lawful i es ↔ ¬ Crossed i es := by
  refine ⟨fun hlawful hcrossed => ?_, fun huncrossed => (orderly_of_uncrossed h ht huncrossed).lawful⟩
  exact hidle (busy_of_crossed h ht hlawful hcrossed).1

end Events

end Gamebook.Crew
