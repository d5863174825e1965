import Gamebook.Act
import Mathlib.Algebra.BigOperators.Group.Multiset.Basic
import Mathlib.Data.Multiset.Bind

/-! Calls that overlap. A call is begun, and takes one more step with the reply to each of its requests;
between two of its steps any other call may be begun or take a step of its own. A run is a sequence of
such steps of any length, in any order. The main statement is `Run.induction`: what the first state has
and every step keeps, of the state and of all that waits, holds of every run. -/
namespace Gamebook

/-- How calls of a kind are begun and resumed, and in which states a waiting one may be resumed. -/
structure Protocol (σ κ ω α : Type) where
  request : ω → Request
  begin : κ → Act σ (Progress ω α)
  resume : (w : ω) → (request w).Reply → Act σ (Progress ω α)
  ready : σ → ω → Bool

namespace Progress

variable {ω α : Type}

def isDone : Progress ω α → Bool
  | done _ => true
  | waiting _ => false

theorem isDone_iff (p : Progress ω α) : p.isDone = true ↔ ∃ a, p = done a := by
  cases p <;> simp [isDone]

def pending : Progress ω α → Multiset ω
  | done _ => 0
  | waiting w => {w}

@[simp] theorem pending_done (a : α) : (done a : Progress ω α).pending = 0 := rfl
@[simp] theorem pending_waiting (w : ω) : (waiting w : Progress ω α).pending = {w} := rfl

theorem pending_map {ω' β : Type} (f : ω → ω') (g : α → β) (p : Progress ω α) :
    (p.map f g).pending = p.pending.map f := by
  cases p <;> simp [map]

end Progress

namespace Protocol

variable {σ κ ω α : Type} (P : Protocol σ κ ω α)

structure Exchange where
  asked : ω
  reply : (P.request asked).Reply

/-- A call, its first step, what it asked since, and where it stands. -/
structure Course where
  call : κ
  opening : Made σ (Progress ω α)
  exchanges : List P.Exchange
  standing : Progress ω α

/-- A state together with the calls that were begun, in their order. -/
structure Flight where
  state : σ
  courses : List P.Course

namespace Flight

variable {P}

def Quiet (f : P.Flight) : Prop := ∀ course ∈ f.courses, course.standing.isDone = true

def standings (f : P.Flight) : Multiset (Progress ω α) := ↑(f.courses.map (·.standing))

def pending (f : P.Flight) : Multiset ω := f.standings.bind Progress.pending

theorem mem_standings {f : P.Flight} {p : Progress ω α} :
    p ∈ f.standings ↔ ∃ course ∈ f.courses, course.standing = p := by
  rw [standings, Multiset.mem_coe, List.mem_map]

theorem Quiet.pending_eq_zero {f : P.Flight} (h : f.Quiet) : f.pending = 0 := by
  refine Multiset.eq_zero_of_forall_notMem fun w hw => ?_
  obtain ⟨p, hp, hw⟩ := Multiset.mem_bind.1 hw
  obtain ⟨course, hc, rfl⟩ := mem_standings.1 hp
  obtain ⟨a, ha⟩ := (Progress.isDone_iff _).1 (h course hc)
  rw [ha] at hw
  exact Multiset.notMem_zero w hw

theorem standings_split (s : σ) (before after : List P.Course) (course : P.Course) :
    standings ⟨s, before ++ course :: after⟩ =
      course.standing ::ₘ (↑(before.map (·.standing)) + ↑(after.map (·.standing))) := by
  simp only [standings, List.map_append, List.map_cons]
  rw [Multiset.coe_add, Multiset.cons_coe, Multiset.coe_eq_coe]
  exact List.perm_middle

end Flight

def Course.ofCall (call : κ) (s : σ) : P.Course :=
  let opening := P.begin call s
  ⟨call, opening, [], opening.value⟩

variable {P} in
def Course.next (course : P.Course) (w : ω) (reply : (P.request w).Reply) (s : σ) : P.Course :=
  { course with
    exchanges := course.exchanges ++ [⟨w, reply⟩]
    standing := (P.resume w reply s).value }

/-- One step of one call, while the others stay where they are. -/
inductive Step (allowed : κ → Prop) (answers : (r : Request) → r.Reply → Prop) :
    P.Flight → P.Flight → Prop
  | begin {s : σ} {courses : List P.Course} (call : κ) : allowed call →
      Step allowed answers ⟨s, courses⟩
        ⟨(P.begin call s).state, courses ++ [Course.ofCall P call s]⟩
  | resume {s : σ} {before after : List P.Course} {course : P.Course} {w : ω}
      (reply : (P.request w).Reply) : course.standing = .waiting w → P.ready s w = true →
      answers (P.request w) reply →
      Step allowed answers ⟨s, before ++ course :: after⟩
        ⟨(P.resume w reply s).state, before ++ course.next w reply s :: after⟩

/-- A run, with the states before and after each of its steps, the last step first. -/
inductive Run (allowed : κ → Prop) (answers : (r : Request) → r.Reply → Prop) (start : P.Flight) :
    List (σ × σ) → P.Flight → Prop
  | start : Run allowed answers start [] start
  | step {log : List (σ × σ)} {f g : P.Flight} : Run allowed answers start log f →
      P.Step allowed answers f g → Run allowed answers start ((f.state, g.state) :: log) g

variable {P} {allowed allowed' : κ → Prop} {answers : (r : Request) → r.Reply → Prop}
variable {start f g : P.Flight} {log log' : List (σ × σ)}

theorem Step.mono (h : P.Step allowed answers f g) (hsub : ∀ k, allowed k → allowed' k) :
    P.Step allowed' answers f g := by
  cases h with
  | begin call ha => exact .begin call (hsub call ha)
  | resume reply hw hready hreply => exact .resume reply hw hready hreply

theorem Run.mono (h : P.Run allowed answers start log f) (hsub : ∀ k, allowed k → allowed' k) :
    P.Run allowed' answers start log f := by
  induction h with
  | start => exact .start
  | step _ hstep ih => exact .step ih (hstep.mono hsub)

theorem Run.trans (h : P.Run allowed answers start log f) (h' : P.Run allowed answers f log' g) :
    P.Run allowed answers start (log' ++ log) g := by
  induction h' with
  | start => exact h
  | step _ hstep ih => exact .step ih hstep

theorem Run.standing_induction {motive : List (σ × σ) → σ → Multiset (Progress ω α) → Prop} {s : σ}
    (hstart : motive [] s 0)
    (hbegin : ∀ {log s others} (call : κ), allowed call → motive log s others →
      motive ((s, (P.begin call s).state) :: log) (P.begin call s).state ((P.begin call s).value ::ₘ others))
    (hresume : ∀ {log s others w} (reply : (P.request w).Reply), P.ready s w = true →
      answers (P.request w) reply → motive log s (.waiting w ::ₘ others) →
      motive ((s, (P.resume w reply s).state) :: log) (P.resume w reply s).state
        ((P.resume w reply s).value ::ₘ others))
    (h : P.Run allowed answers ⟨s, []⟩ log f) : motive log f.state f.standings := by
  induction h with
  | start => exact hstart
  | step _ hstep ih =>
    cases hstep with
    | begin call ha =>
      rw [Flight.standings_split, List.map_nil, Multiset.coe_nil, add_zero]
      exact hbegin call ha ih
    | resume reply hw hready hreply =>
      rw [Flight.standings_split] at ih ⊢
      rw [hw] at ih
      exact hresume reply hready hreply ih

/-- What every step keeps, of the log, the state and all that waits, a run keeps. -/
theorem Run.induction {motive : List (σ × σ) → σ → Multiset ω → Prop} {s : σ}
    (hstart : motive [] s 0)
    (hbegin : ∀ {log s others} (call : κ), allowed call → motive log s others →
      motive ((s, (P.begin call s).state) :: log) (P.begin call s).state
        ((P.begin call s).value.pending + others))
    (hresume : ∀ {log s others w} (reply : (P.request w).Reply), P.ready s w = true →
      answers (P.request w) reply → motive log s ({w} + others) →
      motive ((s, (P.resume w reply s).state) :: log) (P.resume w reply s).state
        ((P.resume w reply s).value.pending + others))
    (h : P.Run allowed answers ⟨s, []⟩ log f) : motive log f.state f.pending := by
  refine Run.standing_induction (motive := fun log s others => motive log s (others.bind Progress.pending))
    hstart (fun call ha ih => ?_) (fun reply hready hreply ih => ?_) h
  · rw [Multiset.cons_bind]
    exact hbegin call ha ih
  · rw [Multiset.cons_bind] at ih ⊢
    exact hresume reply hready hreply ih

/-- What no step of a run gives up holds from start to end. -/
theorem Run.forall_log {Q : σ → Prop} (h : P.Run allowed answers start log f) (hstart : Q start.state)
    (hkeep : ∀ e ∈ log, Q e.1 → Q e.2) : Q f.state ∧ ∀ e ∈ log, Q e.2 := by
  induction h with
  | start => exact ⟨hstart, fun e he => absurd he List.not_mem_nil⟩
  | step _ _ ih =>
    obtain ⟨hf, hlog⟩ := ih fun e he => hkeep e (List.mem_cons_of_mem _ he)
    have hg := hkeep _ List.mem_cons_self hf
    refine ⟨hg, fun e he => ?_⟩
    rcases List.mem_cons.1 he with rfl | he
    · exact hg
    · exact hlog e he

/-- A move of a script: a call is begun, or the call of a position is resumed. -/
inductive Move (κ : Type)
  | begin (call : κ)
  | resume (position : Nat)

/-- A flight after one more move; a call that cannot be resumed stays as it is. -/
def Flight.move (env : (r : Request) → r.Reply) (f : P.Flight) : Move κ → P.Flight
  | .begin call => ⟨(P.begin call f.state).state, f.courses ++ [Course.ofCall P call f.state]⟩
  | .resume i =>
    match f.courses[i]? with
    | none => f
    | some course =>
      match course.standing with
      | .done _ => f
      | .waiting w =>
        if P.ready f.state w then
          ⟨(P.resume w (env (P.request w)) f.state).state,
            f.courses.set i (course.next w (env (P.request w)) f.state)⟩
        else f

def Flight.play (env : (r : Request) → r.Reply) (f : P.Flight) (moves : List (Move κ)) : P.Flight :=
  moves.foldl (Flight.move env) f

theorem exists_split_of_getElem? {β : Type} {l : List β} {i : Nat} {x : β} (h : l[i]? = some x) :
    ∃ before after, l = before ++ x :: after ∧ ∀ y, l.set i y = before ++ y :: after := by
  obtain ⟨hi, hget⟩ := List.getElem?_eq_some_iff.1 h
  refine ⟨l.take i, l.drop (i + 1), ?_, fun y => ?_⟩
  · rw [← hget, List.cons_getElem_drop_succ, List.take_append_drop]
  · rw [List.set_eq_take_append_cons_drop, if_pos hi]

theorem Run.move (h : P.Run allowed answers start log f) {env : (r : Request) → r.Reply}
    (henv : ∀ r, answers r (env r)) {m : Move κ} (hm : ∀ call, m = .begin call → allowed call) :
    ∃ log', P.Run allowed answers start log' (f.move env m) := by
  cases m with
  | begin call => exact ⟨_, h.step (.begin call (hm call rfl))⟩
  | resume i =>
    simp only [Flight.move]
    split
    · exact ⟨log, h⟩
    · rename_i course hc
      split
      · exact ⟨log, h⟩
      · rename_i w hw
        split
        · rename_i hready
          obtain ⟨s, courses⟩ := f
          obtain ⟨before, after, rfl, hset⟩ := exists_split_of_getElem? hc
          rw [hset]
          exact ⟨_, h.step (.resume (env (P.request w)) hw hready (henv _))⟩
        · exact ⟨log, h⟩

def Move.call? : Move κ → Option κ
  | .begin call => some call
  | .resume _ => none

theorem Flight.calls_play (env : (r : Request) → r.Reply) (f : P.Flight) (moves : List (Move κ)) :
    (f.play env moves).courses.map (·.call) = f.courses.map (·.call) ++ moves.filterMap Move.call? := by
  induction moves generalizing f with
  | nil => exact (List.append_nil _).symm
  | cons m moves ih =>
    refine (ih (f.move env m)).trans ?_
    cases m with
    | begin call =>
      simp only [Flight.move, List.map_append, List.filterMap_cons, Move.call?, List.append_assoc]
      rfl
    | resume i =>
      have hkeep : (f.move env (.resume i)).courses.map (·.call) = f.courses.map (·.call) := by
        simp only [Flight.move]
        split
        · rfl
        · rename_i course hc
          split
          · rfl
          · split
            · obtain ⟨before, after, hsplit, hset⟩ := exists_split_of_getElem? hc
              rw [hset, hsplit, List.map_append, List.map_append]
              rfl
            · rfl
      rw [hkeep]
      rfl

theorem exists_run_play {env : (r : Request) → r.Reply} (henv : ∀ r, answers r (env r))
    {moves : List (Move κ)} (hmoves : ∀ call, .begin call ∈ moves → allowed call)
    (h : P.Run allowed answers start log f) :
    ∃ log', P.Run allowed answers start log' (f.play env moves) := by
  induction moves generalizing f log with
  | nil => exact ⟨log, h⟩
  | cons m moves ih =>
    obtain ⟨log', h'⟩ := h.move henv (fun call hm => hmoves call (hm ▸ List.mem_cons_self))
    exact ih (fun call hm => hmoves call (List.mem_cons_of_mem m hm)) h'

end Protocol
end Gamebook
