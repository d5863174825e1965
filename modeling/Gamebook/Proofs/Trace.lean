import Gamebook.Proofs.Interleaving

/-! Runs with all their steps. A trace lists what happened in a run, the last event first: which call took a
step, on which reply, and how everything stood before and after it. What is said of one event and of those
before or after it is said of a trace that is cut there: `Trace.cut`. -/
namespace Gamebook.Protocol

variable {σ κ ω α : Type} (P : Protocol σ κ ω α)

/-- One step of the call of a number: it is begun, or it goes on with the reply to a request. -/
structure Event where
  number : Nat
  exchange? : Option P.Exchange
  before : P.Flight
  after : P.Flight

namespace Event

def begun (f : P.Flight) (call : κ) : P.Event where
  number := f.courses.length
  exchange? := none
  before := f
  after := ⟨(P.begin call f.state).state, f.courses ++ [Course.ofCall P call f.state]⟩

variable {P}

def resumed (s : σ) (before : List P.Course) (course : P.Course) (after : List P.Course) (w : ω)
    (reply : (P.request w).Reply) : P.Event where
  number := before.length
  exchange? := some ⟨w, reply⟩
  before := ⟨s, before ++ course :: after⟩
  after := ⟨(P.resume w reply s).state, before ++ course.next w reply s :: after⟩

inductive Happens (allowed : κ → Prop) (answers : (r : Request) → r.Reply → Prop) : P.Event → Prop
  | begin (f : P.Flight) {call : κ} : allowed call → Happens allowed answers (begun P f call)
  | resume {s : σ} {before after : List P.Course} {course : P.Course} {w : ω} (reply : (P.request w).Reply) :
      course.standing = .waiting w → P.ready s w = true → answers (P.request w) reply →
      Happens allowed answers (resumed s before course after w reply)

def course? (e : P.Event) : Option P.Course := e.after.courses[e.number]?

/-- The answer that a call gives in this very step. -/
def answer? (e : P.Event) : Option α :=
  e.course?.bind fun course =>
    match course.standing with
    | .done a => some a
    | .waiting _ => none

/-- A step as the call sees it that takes it: the call is new, or it waited and has its reply. -/
inductive Took (allowed : κ → Prop) (answers : (r : Request) → r.Reply → Prop) (e : P.Event)
    (course : P.Course) : Prop
  | begun {call : κ} : allowed call → e.before.courses[e.number]? = none →
      e.after.state = (P.begin call e.before.state).state →
      course.standing = (P.begin call e.before.state).value → Took allowed answers e course
  | resumed {before : P.Course} {w : ω} (reply : (P.request w).Reply) : e.exchange? = some ⟨w, reply⟩ →
      e.before.courses[e.number]? = some before → before.standing = .waiting w →
      P.ready e.before.state w = true → answers (P.request w) reply →
      e.after.state = (P.resume w reply e.before.state).state →
      course.standing = (P.resume w reply e.before.state).value → Took allowed answers e course

end Event

/-- A run from one flight to another, with all that happens in it, the last event first. -/
inductive Trace (allowed : κ → Prop) (answers : (r : Request) → r.Reply → Prop) (start : P.Flight) :
    List P.Event → P.Flight → Prop
  | start : Trace allowed answers start [] start
  | step {es : List P.Event} {e : P.Event} : Trace allowed answers start es e.before →
      e.Happens allowed answers → Trace allowed answers start (e :: es) e.after

variable {P} {allowed : κ → Prop} {answers : (r : Request) → r.Reply → Prop}
variable {start f : P.Flight} {es earlier later : List P.Event} {e : P.Event}

namespace Event

theorem course?_begun (f : P.Flight) (call : κ) :
    (begun P f call).course? = some (Course.ofCall P call f.state) := by
  simp [course?, begun]

theorem course?_resumed (s : σ) (before : List P.Course) (course : P.Course) (after : List P.Course) (w : ω)
    (reply : (P.request w).Reply) :
    (resumed s before course after w reply).course? = some (course.next w reply s) := by
  simp [course?, resumed]

theorem answer?_of_waiting {course : P.Course} {w : ω} (hcourse : e.course? = some course)
    (hstanding : course.standing = .waiting w) : e.answer? = none := by
  simp only [answer?, hcourse, Option.bind_some, hstanding]

theorem answer?_of_done {course : P.Course} {answer : α} (hcourse : e.course? = some course)
    (hstanding : course.standing = .done answer) : e.answer? = some answer := by
  simp only [answer?, hcourse, Option.bind_some, hstanding]

theorem pending_begun (f : P.Flight) (call : κ) :
    (begun P f call).after.pending = (P.begin call f.state).value.pending + f.pending := by
  have hstandings : (begun P f call).after.standings =
      (P.begin call f.state).value ::ₘ f.standings := by
    simp only [begun, Flight.standings_split, List.map_nil, Multiset.coe_nil, add_zero]
    rfl
  simp only [Flight.pending, hstandings, Multiset.cons_bind]

theorem pending_resumed {s : σ} {before after : List P.Course} {course : P.Course} {w : ω}
    (reply : (P.request w).Reply) (hw : course.standing = .waiting w) :
    ∃ others, (resumed s before course after w reply).before.pending = {w} + others ∧
      (resumed s before course after w reply).after.pending = (P.resume w reply s).value.pending + others := by
  refine ⟨(↑(before.map (·.standing)) + ↑(after.map (·.standing)) : Multiset (Progress ω α)).bind
    Progress.pending, ?_, ?_⟩
  · simp only [resumed, Flight.pending, Flight.standings_split, hw, Multiset.cons_bind, Progress.pending_waiting]
  · simp only [resumed, Flight.pending, Flight.standings_split, Multiset.cons_bind]
    rfl

theorem mem_pending_resumed {s : σ} {before after : List P.Course} {course : P.Course} {w : ω}
    (reply : (P.request w).Reply) (hw : course.standing = .waiting w) :
    w ∈ (resumed s before course after w reply).before.pending := by
  obtain ⟨others, hpending, -⟩ : ∃ others, (resumed s before course after w reply).before.pending = {w} + others ∧ _ :=
    pending_resumed reply hw
  rw [hpending]
  exact Multiset.mem_add.2 (.inl (Multiset.mem_singleton_self w))

theorem Happens.courses_of_ne (h : e.Happens allowed answers) {n : Nat} (hn : n ≠ e.number) :
    e.after.courses[n]? = e.before.courses[n]? := by
  cases h with
  | begin f _ =>
    have hne : n ≠ f.courses.length := hn
    simp only [begun, List.getElem?_append]
    by_cases hlt : n < f.courses.length
    · simp [hlt]
    · have hnone : ∀ course : P.Course, [course][n - f.courses.length]? = none := by
        intro course
        apply List.getElem?_eq_none
        simp only [List.length_singleton]
        omega
      simp [hlt, hnone]
  | @resume s before after course w reply _ _ _ =>
    have hne : n ≠ before.length := hn
    simp only [resumed, List.getElem?_append]
    by_cases hlt : n < before.length
    · simp [hlt]
    · obtain ⟨k, hk⟩ : ∃ k, n - before.length = k + 1 := ⟨n - before.length - 1, by omega⟩
      simp [hlt, hk]

theorem Happens.took (h : e.Happens allowed answers) :
    ∃ course, e.after.courses[e.number]? = some course ∧ Took allowed answers e course := by
  cases h with
  | begin f ha => exact ⟨_, course?_begun f _, .begun ha (by simp [begun]) rfl rfl⟩
  | resume reply hw hready hreply =>
    exact ⟨_, course?_resumed _ _ _ _ _ reply, .resumed reply rfl (by simp [resumed]) hw hready hreply rfl rfl⟩

theorem Happens.step (h : e.Happens allowed answers) : P.Step allowed answers e.before e.after := by
  cases h with
  | begin f ha => exact .begin _ ha
  | resume reply hw hready hreply => exact .resume reply hw hready hreply

end Event

/-- A run is a trace of which only the states are told. -/
theorem run_iff_trace {log : List (σ × σ)} : P.Run allowed answers start log f ↔
    ∃ es, P.Trace allowed answers start es f ∧ log = es.map fun e => (e.before.state, e.after.state) := by
  constructor
  · intro h
    induction h with
    | start => exact ⟨[], .start, rfl⟩
    | @step log f g _ hstep ih =>
      obtain ⟨es, htrace, rfl⟩ := ih
      have hevent : ∃ e : P.Event, e.Happens allowed answers ∧ e.before = f ∧ e.after = g := by
        cases hstep with
        | begin call ha => exact ⟨_, .begin _ ha, rfl, rfl⟩
        | resume reply hw hready hreply => exact ⟨_, .resume reply hw hready hreply, rfl, rfl⟩
      obtain ⟨e, he, rfl, rfl⟩ := hevent
      exact ⟨e :: es, htrace.step he, rfl⟩
  · rintro ⟨es, h, rfl⟩
    induction h with
    | start => exact .start
    | step _ he ih => exact ih.step he.step

theorem Trace.cut (h : P.Trace allowed answers start (later ++ e :: earlier) f) :
    P.Trace allowed answers start earlier e.before ∧ e.Happens allowed answers ∧
      P.Trace allowed answers e.after later f := by
  induction later generalizing f with
  | nil =>
    cases h with
    | step h he => exact ⟨h, he, .start⟩
  | cons e' later ih =>
    cases h with
    | step h he =>
      obtain ⟨hearlier, hhere, hlater⟩ := ih h
      exact ⟨hearlier, hhere, hlater.step he⟩

/-- A call that waits goes on at some time, or it still stands where it stood. -/
theorem Trace.resumed_or_same (h : P.Trace allowed answers start es f) {n : Nat} {course : P.Course} {w : ω}
    (hcourse : start.courses[n]? = some course) (hw : course.standing = .waiting w) :
    (∃ e ∈ es, e.number = n ∧ ∃ reply, e.exchange? = some ⟨w, reply⟩) ∨ f.courses[n]? = some course := by
  induction h with
  | start => exact .inr hcourse
  | @step es e _ he ih =>
    rcases ih with ⟨e', hmem, hrest⟩ | hsame
    · exact .inl ⟨e', List.mem_cons_of_mem _ hmem, hrest⟩
    · by_cases hn : n = e.number
      · subst hn
        obtain ⟨_, _, htook⟩ := he.took
        cases htook with
        | begun _ hnone => cases hnone.symm.trans hsame
        | resumed reply hexchange hbefore hwaiting =>
          obtain rfl := Option.some.inj (hbefore.symm.trans hsame)
          obtain rfl := Progress.waiting.inj (hwaiting.symm.trans hw)
          exact .inl ⟨e, List.mem_cons_self, rfl, reply, hexchange⟩
      · exact .inr ((he.courses_of_ne hn).trans hsame)

/-- What happens with a move; nothing if a call cannot be resumed. -/
def Flight.event? (env : (r : Request) → r.Reply) (f : P.Flight) : Move κ → Option P.Event
  | .begin call => some (Event.begun P f call)
  | .resume i =>
    match f.courses[i]? with
    | none => none
    | some course =>
      match course.standing with
      | .done _ => none
      | .waiting w =>
        if P.ready f.state w then
          some (Event.resumed f.state (f.courses.take i) course (f.courses.drop (i + 1)) w (env (P.request w)))
        else none

def Flight.events (env : (r : Request) → r.Reply) (f : P.Flight) : List (Move κ) → List P.Event
  | [] => []
  | m :: moves =>
    match f.event? env m with
    | some e => e.after.events env moves ++ [e]
    | none => f.events env moves

theorem Flight.move_eq (env : (r : Request) → r.Reply) (f : P.Flight) (m : Move κ) :
    f.move env m = match f.event? env m with
      | some e => e.after
      | none => f := by
  cases m with
  | begin call => rfl
  | resume i =>
    simp only [Flight.move, Flight.event?]
    cases hcourse : f.courses[i]? with
    | none => rfl
    | some course =>
      cases hw : course.standing with
      | done a => simp only [hw]
      | waiting w =>
        simp only [hw]
        by_cases hready : P.ready f.state w = true
        · have hi := (List.getElem?_eq_some_iff.1 hcourse).1
          rw [if_pos hready, if_pos hready, List.set_eq_take_append_cons_drop, if_pos hi]
          rfl
        · rw [if_neg hready, if_neg hready]

theorem Flight.happens_of_event? {env : (r : Request) → r.Reply} (henv : ∀ r, answers r (env r))
    {m : Move κ} (hm : ∀ call, m = .begin call → allowed call) (h : f.event? env m = some e) :
    e.before = f ∧ e.Happens allowed answers := by
  cases m with
  | begin call =>
    obtain rfl := Option.some.inj h
    exact ⟨rfl, .begin f (hm call rfl)⟩
  | resume i =>
    simp only [Flight.event?] at h
    split at h
    · cases h
    · rename_i course hcourse
      split at h
      · cases h
      · rename_i w hw
        split at h
        · rename_i hready
          obtain rfl := Option.some.inj h
          obtain ⟨hi, hget⟩ := List.getElem?_eq_some_iff.1 hcourse
          have hcourses : f.courses.take i ++ course :: f.courses.drop (i + 1) = f.courses := by
            rw [← hget, List.cons_getElem_drop_succ, List.take_append_drop]
          refine ⟨?_, .resume _ hw hready (henv _)⟩
          show (⟨f.state, f.courses.take i ++ course :: f.courses.drop (i + 1)⟩ : P.Flight) = f
          rw [hcourses]
        · cases h

theorem trace_events {env : (r : Request) → r.Reply} (henv : ∀ r, answers r (env r)) {moves : List (Move κ)}
    (hmoves : ∀ call, .begin call ∈ moves → allowed call) (h : P.Trace allowed answers start es f) :
    P.Trace allowed answers start (f.events env moves ++ es) (f.play env moves) := by
  induction moves generalizing f es with
  | nil => exact h
  | cons m moves ih =>
    have hrest : ∀ call, .begin call ∈ moves → allowed call := fun call hc => hmoves call (by simp [hc])
    have hplay : f.play env (m :: moves) = (f.move env m).play env moves := rfl
    rw [hplay, Flight.move_eq]
    cases he : f.event? env m with
    | none =>
      simp only [Flight.events, he]
      exact ih hrest h
    | some e =>
      have hevent : e.before = f ∧ e.Happens allowed answers :=
        Flight.happens_of_event? henv (fun call hc => hmoves call (by simp [hc])) he
      obtain ⟨rfl, hhappens⟩ := hevent
      simp only [Flight.events, he, List.append_assoc]
      exact ih hrest (h.step hhappens)

theorem trace_script {env : (r : Request) → r.Reply} (henv : ∀ r, answers r (env r)) {moves : List (Move κ)}
    (hmoves : ∀ call, .begin call ∈ moves → allowed call) :
    P.Trace allowed answers start (start.events env moves) (start.play env moves) := by
  have h := trace_events henv hmoves (.start : P.Trace allowed answers start [] start)
  rwa [List.append_nil] at h

end Gamebook.Protocol
