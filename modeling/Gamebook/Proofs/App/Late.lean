import Gamebook.Proofs.App.Ages
import Gamebook.Proofs.App.Panel

/-! Work that comes too late. A fetch of regions, a mount and what follows the save of a choice are begun for
a screen in a generation, and look whether the stage is still current for them before they touch anything. A
step of a call that goes on with such work is taken apart into the work and what the call does after it
(`work?`, `resume_eq`). Work for a change that the stage has left does nothing but keep what it fetched. -/
namespace Gamebook

open Act

def Navigation.settled (w : Fitting) (outcome : FittingOutcome) : Act (Staged Navigation) (Option ScreenId) := do
  match outcome with
  | .failed => Act.give (.shownWithoutRegions w.screen)
  | _ => pure ()
  arrive w.screen w.generation

namespace Storybook

theorem unmountIfCurrent_of_late {v : Visit} {s : Staged Storybook}
    (h : s.stage.isCurrent v.generation v.screen = false) : (unmountIfCurrent v s).state = s := by
  rw [unmountIfCurrent_state, if_neg (Bool.eq_false_iff.1 h)]

theorem located_of_late {v : Visit} {s : Staged Storybook} (h : s.stage.isCurrent v.generation v.screen = false)
    (locator : Option Locator) : (located v locator s).state = s := by
  have hlocated := located_located v locator s
  generalize located v locator s = made at hlocated ⊢
  cases hlocated with
  | missing => exact unmountIfCurrent_of_late h
  | known => rfl
  | opening => rfl

theorem settle_of_late (c : StorySettings) {v : Visit} {s : Staged Storybook}
    (h : s.stage.isCurrent v.generation v.screen = false) (graph : Option Story.Graph) (saved : Option NodeId) :
    (settle c v graph saved s).state = s := by
  have hsettles := settles_settle c v graph saved s
  generalize settle c v graph saved s = made at hsettles ⊢
  cases hsettles with
  | stale => rfl
  | empty _ hcurrent => rw [h] at hcurrent; cases hcurrent
  | rendered _ hcurrent => rw [h] at hcurrent; cases hcurrent

theorem visit_located {v : Visit} {locator : Option Locator} {s : Staged Storybook} {w : Mounting}
    (h : (located v locator s).value = .waiting w) : w.visit = v := by
  have hlocated := located_located v locator s
  generalize located v locator s = made at h hlocated
  cases hlocated with
  | missing => cases h
  | known => cases h; rfl
  | opening => cases h; rfl

end Storybook

namespace Mounting

variable (c : StorySettings) (w : Mounting) (reply : w.request.Reply) {s : Staged Storybook}

/-- A mount that comes too late keeps what it fetched, and does nothing else. -/
theorem late (h : s.stage.isCurrent w.visit.generation w.visit.screen = false) :
    ∃ catalog graphs, (w.resume c reply s).state = { s with part := { s.part with catalog, graphs } } := by
  match w, reply with
  | .locating v w, reply =>
    let catalog := (w.resume reply s.part.catalog).state
    have hlate : Stage.isCurrent (⟨s.stage, { s.part with catalog }⟩ : Staged Storybook).stage v.generation
        v.screen = false := h
    exact ⟨catalog, s.part.graphs, Storybook.located_of_late hlate _⟩
  | .opening v url, .error cause => exact ⟨_, _, rfl⟩
  | .opening v url, .ok doc =>
    obtain ⟨notices, heq⟩ := Mounting.resume_opening c v url doc s
    rw [heq]
    exact ⟨_, _, rfl⟩
  | .recalling v graph, .error cause => exact ⟨_, _, Storybook.settle_of_late c h graph none⟩
  | .recalling v graph, .ok saved => exact ⟨_, _, Storybook.settle_of_late c h graph saved⟩

theorem visit_of_waiting {w' : Mounting} (h : (w.resume c reply s).value = .waiting w') : w'.visit = w.visit := by
  match w, reply, h with
  | .locating v w, reply, h => exact Storybook.visit_located h
  | .opening v url, .error cause, h => cases h; rfl
  | .opening v url, .ok doc, h =>
    obtain ⟨notices, heq⟩ := Mounting.resume_opening c v url doc s
    rw [heq] at h
    cases h
    rfl
  | .recalling v graph, .error cause, h => cases h
  | .recalling v graph, .ok saved, h => cases h

end Mounting

theorem Fitting.late (w : Fitting) (reply : w.request.Reply) {s : Stage}
    (h : s.isCurrent w.generation w.screen = false) : (w.resume reply s).state = s := by
  rw [Fitting.resume_state, if_neg (Bool.eq_false_iff.1 h)]

theorem Saving.late (w : Saving) (reply : w.request.Reply) {s : Staged Storybook}
    (h : s.stage.isCurrent w.visit.generation w.visit.screen = false) : (w.resume reply s).state = s := by
  rw [Saving.resume_state, if_neg (Bool.eq_false_iff.1 h)]

namespace App

/-- A step of a call that goes on with work for a change: the step of the work itself, which may have to wait
again, and what the call does once the work is done. -/
structure Work where
  Outcome : Type
  change : ScreenChange
  step : Act App (Progress Waiting Outcome)
  next : Outcome → Act App (Progress Waiting Answer)

namespace Work

def all (x : Work) : Act App (Progress Waiting Answer) := do
  match ← x.step with
  | .waiting w => return .waiting w
  | .done outcome => x.next outcome

def fitting (w : Fitting) (reply : w.request.Reply) (next : FittingOutcome → Act App (Progress Waiting Answer)) :
    Work where
  Outcome := FittingOutcome
  change := w.change
  step := do return .done (← navigating (Staged.onStage (w.resume reply)))
  next

def arriving (w : Fitting) (reply : w.request.Reply)
    (next : Option ScreenId → Act App (Progress Waiting Answer)) : Work :=
  fitting w reply fun outcome => navigating (Navigation.settled w outcome) >>= next

def saving (w : Saving) (reply : w.request.Reply) (answer : Option NodeId → Answer) : Work where
  Outcome := Option NodeId
  change := w.visit.change
  step := do return .done (← reading (w.resume reply))
  next node := return .done (answer node)

def mounting (c : Settings) (w : Mounting) (reply : w.request.Reply) (wait : Mounting → Waiting)
    (next : MountOutcome → Act App (Progress Waiting Answer)) : Work where
  Outcome := MountOutcome
  change := w.visit.change
  step := do return (← reading (w.resume c.story reply)).map wait id
  next

/-- A mount of which the crew is being told: then the others are told, and of the next transitions. -/
def telling (c : Settings) (w : Telling) (reply : w.request.Reply) (wait : Telling → Waiting)
    (next : Act App (Progress Waiting Answer)) : Work :=
  mounting c w.inner reply (fun inner => wait { w with inner }) fun _ => do
    match ← (crew c).resumeRound w with
    | .waiting w => return .waiting (wait w)
    | .done () =>
      match ← pump c with
      | .waiting w => return .waiting (wait w)
      | .done () => next

end Work

def work? (c : Settings) : (w : Waiting) → w.request.Reply → Option Work
  | .opening (.regions w), reply => some (.arriving w reply fun _ => pure (.done (.loaded (.ok ()))))
  | .following w, reply => some (.arriving w reply fun screen => pure (.done (.screen screen)))
  | .dispatching w, reply => some (.arriving w reply fun screen => pure (.done (.pointer (.navigated screen))))
  | .fitting w, reply => some (.fitting w reply fun outcome => pure (.done (.fitted outcome)))
  | .booting (.opening (.regions w)), reply => some (.arriving w reply fun _ => do
      return (← bootOpened c (.ok ())).map .booting .loaded)
  | .booting (.pumping w), reply => some (.telling c w reply (fun w => .booting (.pumping w)) do
      return (← ready).map .booting .loaded)
  | .going (.following w), reply => some (.arriving w reply fun screen => do
      return (← thenPump c screen).map .going .screen)
  | .going (.pumping screen w), reply =>
    some (.telling c w reply (fun w => .going (.pumping screen w)) (pure (.done (.screen screen))))
  | .tapping (.choosing w), reply => some (.saving w reply fun node => .tapped (.slot node))
  | .tapping (.dispatching w), reply => some (.arriving w reply fun screen => do
      return (← thenPumpTap c (.navigated screen)).map .tapping .tapped)
  | .tapping (.pumping outcome w), reply =>
    some (.telling c w reply (fun w => .tapping (.pumping outcome w)) (pure (.done (.tapped (.pointer outcome)))))
  | .saving w, reply => some (.saving w reply .node)
  | .pumping w, reply => some (.telling c w reply .pumping (pure (.done .nothing)))
  | .entering w, reply => some (.mounting c w reply .entering fun outcome => pure (.done (.mounted (some outcome))))
  | .mounting w, reply => some (.mounting c w reply .mounting fun outcome => pure (.done (.mounted (some outcome))))
  | .notifying w, reply => some (.mounting c w.inner reply (fun inner => .notifying { w with inner }) fun _ => do
      return (← (crew c).resumeRound w).map .notifying fun _ => .nothing)
  | _, _ => none

section Parts

variable {c : Settings}

theorem arriving_all (w : Fitting) (reply : w.request.Reply)
    (next : Option ScreenId → Act App (Progress Waiting Answer)) :
    (Work.arriving w reply next).all = navigating (Navigation.settle w reply) >>= next := by
  funext a
  simp only [Work.all, Work.arriving, Work.fitting, navigating, Navigation.settle, Navigation.settled, bind_apply,
    within_apply, Staged.onStage_apply, pure_apply]
  cases (w.resume reply a.stage).value <;> simp only [bind_apply, List.append_nil, List.append_assoc]

theorem mounting_all (w : Mounting) (reply : w.request.Reply) (wait : Mounting → Waiting)
    (next : MountOutcome → Act App (Progress Waiting Answer)) :
    (Work.mounting c w reply wait next).all = reading (w.resume c.story reply) >>= fun
      | .waiting inner => pure (.waiting (wait inner))
      | .done outcome => next outcome := by
  simp only [Work.all, Work.mounting, bind_assoc, pure_bind]
  congr 1
  funext p
  cases p <;> rfl

theorem telling_all (w : Telling) (reply : w.request.Reply) (wait : Telling → Waiting)
    (next : Act App (Progress Waiting Answer)) :
    (Work.telling c w reply wait next).all = resumePump c w reply >>= fun
      | .waiting w => pure (.waiting (wait w))
      | .done () => next := by
  simp only [Work.telling, mounting_all, resumePump, resumeNotify, bind_assoc]
  congr 1
  funext p
  cases p with
  | waiting inner => simp only [pure_bind]
  | done outcome =>
    dsimp only
    congr 1
    funext q
    cases q with
    | waiting w => simp only [pure_bind]
    | done => rfl

end Parts

theorem navigating_bind {α β : Type} (x : Act (Staged Navigation) α) (k : α → Act (Staged Navigation) β) :
    navigating (x >>= k) = navigating x >>= fun v => navigating (k v) := rfl

theorem navigating_pure {α : Type} (v : α) : navigating (pure v) = pure v := rfl

variable {c : Settings} {a b : App}

theorem resume_eq {w : Waiting} {reply : w.request.Reply} {x : Work} (h : work? c w reply = some x) :
    resume c w reply = x.all := by
  match w, reply, h with
  | .opening (.regions w), reply, rfl =>
    simp only [resume, Opening.resume, arriving_all, navigating_bind, navigating_pure, bind_assoc, pure_bind]
    rfl
  | .following w, reply, rfl => exact (arriving_all w reply _).symm
  | .dispatching w, reply, rfl => exact (arriving_all w reply _).symm
  | .fitting w, reply, rfl => simp only [resume, Work.all, Work.fitting, bind_assoc, pure_bind]
  | .booting (.opening (.regions w)), reply, rfl =>
    simp only [resume, Booting.resume, Opening.resume, arriving_all, navigating_bind, navigating_pure, bind_assoc,
      pure_bind]
  | .booting (.pumping w), reply, rfl =>
    simp only [telling_all, resume, Booting.resume, bind_assoc]
    exact bind_congr fun p => by cases p <;> rfl
  | .going (.following w), reply, rfl => simp only [resume, Going.resume, arriving_all, bind_assoc]
  | .going (.pumping screen w), reply, rfl =>
    simp only [telling_all, resume, Going.resume, bind_assoc]
    exact bind_congr fun p => by cases p <;> rfl
  | .tapping (.choosing w), reply, rfl => rfl
  | .tapping (.dispatching w), reply, rfl => simp only [resume, Tapping.resume, arriving_all, bind_assoc]
  | .tapping (.pumping outcome w), reply, rfl =>
    simp only [telling_all, resume, Tapping.resume, bind_assoc]
    exact bind_congr fun p => by cases p <;> rfl
  | .saving w, reply, rfl => simp only [resume, Work.all, Work.saving, bind_assoc, pure_bind]
  | .pumping w, reply, rfl =>
    simp only [telling_all, resume]
    exact bind_congr fun p => by cases p <;> rfl
  | .entering w, reply, rfl =>
    simp only [mounting_all, resume]
    exact bind_congr fun p => by cases p <;> rfl
  | .mounting w, reply, rfl =>
    simp only [mounting_all, resume]
    exact bind_congr fun p => by cases p <;> rfl
  | .notifying w, reply, rfl =>
    simp only [mounting_all, resume, resumeNotify, bind_assoc]
    exact bind_congr fun p => by cases p <;> rfl

/-- Nothing was done but to keep what was fetched: no surface, no place of a reader and nothing else changed. -/
def Idle (a b : App) : Prop := ∃ catalog graphs, b = { a with storybook := { a.storybook with catalog, graphs } }

variable (c) in
/-- Work that looks whether it is late, and that stays work for the same change as long as it waits. -/
structure Work.Careful (x : Work) : Prop where
  idle : ∀ {a : App}, a.stage.isCurrent x.change.generation x.change.screen = false → Idle a (x.step a).state
  waits : ∀ {a : App} {w : Waiting}, (x.step a).value = .waiting w → ∀ reply : w.request.Reply,
    ∃ x', work? c w reply = some x' ∧ x'.change = x.change

theorem careful_fitting (w : Fitting) (reply : w.request.Reply)
    (next : FittingOutcome → Act App (Progress Waiting Answer)) : (Work.fitting w reply next).Careful c where
  idle {a} hlate := by
    refine ⟨a.storybook.catalog, a.storybook.graphs, ?_⟩
    show { a with stage := (w.resume reply a.stage).state } = a
    rw [w.late reply hlate]
  waits h := nomatch h

theorem careful_saving (w : Saving) (reply : w.request.Reply) (answer : Option NodeId → Answer) :
    (Work.saving w reply answer).Careful c where
  idle {a} hlate := by
    have hstate := w.late reply (s := ⟨a.stage, a.storybook⟩) hlate
    refine ⟨a.storybook.catalog, a.storybook.graphs, ?_⟩
    show (reading (w.resume reply) a).state = a
    simp only [reading, within_apply, hstate]
  waits h := nomatch h

theorem careful_mounting (w : Mounting) (reply : w.request.Reply) {wait : Mounting → Waiting}
    (next : MountOutcome → Act App (Progress Waiting Answer))
    (hwait : ∀ inner, ∀ reply : (wait inner).request.Reply,
      ∃ x, work? c (wait inner) reply = some x ∧ x.change = inner.visit.change) :
    (Work.mounting c w reply wait next).Careful c where
  idle {a} hlate := by
    obtain ⟨catalog, graphs, hstate⟩ := w.late c.story reply (s := ⟨a.stage, a.storybook⟩) hlate
    refine ⟨catalog, graphs, ?_⟩
    show (reading (w.resume c.story reply) a).state = _
    simp only [reading, within_apply, hstate]
  waits {a w'} h reply' := by
    change ((reading (w.resume c.story reply) a).value.map wait id) = .waiting w' at h
    cases hvalue : (reading (w.resume c.story reply) a).value with
    | done outcome => rw [hvalue] at h; cases h
    | waiting inner =>
      rw [hvalue] at h
      cases h
      obtain ⟨x, hx, hchange⟩ := hwait inner reply'
      exact ⟨x, hx, hchange.trans (congrArg Visit.change (w.visit_of_waiting c.story reply hvalue))⟩

theorem careful_of_work? {w : Waiting} {reply : w.request.Reply} {x : Work} (h : work? c w reply = some x) :
    x.Careful c := by
  match w, reply, h with
  | .opening (.regions w), reply, rfl => exact careful_fitting w reply _
  | .following w, reply, rfl => exact careful_fitting w reply _
  | .dispatching w, reply, rfl => exact careful_fitting w reply _
  | .fitting w, reply, rfl => exact careful_fitting w reply _
  | .booting (.opening (.regions w)), reply, rfl => exact careful_fitting w reply _
  | .booting (.pumping w), reply, rfl => exact careful_mounting w.inner reply _ fun _ _ => ⟨_, rfl, rfl⟩
  | .going (.following w), reply, rfl => exact careful_fitting w reply _
  | .going (.pumping _ w), reply, rfl => exact careful_mounting w.inner reply _ fun _ _ => ⟨_, rfl, rfl⟩
  | .tapping (.choosing w), reply, rfl => exact careful_saving w reply _
  | .tapping (.dispatching w), reply, rfl => exact careful_fitting w reply _
  | .tapping (.pumping _ w), reply, rfl => exact careful_mounting w.inner reply _ fun _ _ => ⟨_, rfl, rfl⟩
  | .saving w, reply, rfl => exact careful_saving w reply _
  | .pumping w, reply, rfl => exact careful_mounting w.inner reply _ fun _ _ => ⟨_, rfl, rfl⟩
  | .entering w, reply, rfl => exact careful_mounting w reply _ fun _ _ => ⟨_, rfl, rfl⟩
  | .mounting w, reply, rfl => exact careful_mounting w reply _ fun _ _ => ⟨_, rfl, rfl⟩
  | .notifying w, reply, rfl => exact careful_mounting w.inner reply _ fun _ _ => ⟨_, rfl, rfl⟩

def workOf? (e : (protocol c).Event) : Option Work := e.exchange?.bind fun x => work? c x.asked x.reply

/-- An event in which late work does nothing: either the call waits on, for more work for the same change, or
the work is done, and what the call does then it does as if there had been no work. -/
structure Inert (x : Work) (e : (protocol c).Event) : Prop where
  idle : Idle e.before.state (x.step e.before.state).state
  waits : ∀ {w : Waiting}, (x.step e.before.state).value = .waiting w →
    e.after.state = (x.step e.before.state).state ∧ e.course?.map (·.standing) = some (.waiting w) ∧
      ∀ reply : w.request.Reply, ∃ x', work? c w reply = some x' ∧ x'.change = x.change
  ends : ∀ {outcome : x.Outcome}, (x.step e.before.state).value = .done outcome →
    e.after.state = (x.next outcome (x.step e.before.state).state).state ∧
      e.course?.map (·.standing) = some (x.next outcome (x.step e.before.state).state).value

section Events

variable {allowed : Call → Prop} {answers : (r : Request) → r.Reply → Prop}
variable {start f : (protocol c).Flight} {e : (protocol c).Event} {earlier later : List (protocol c).Event}
variable {x : Work}

theorem event_of_work (he : e.Happens allowed answers) (hx : workOf? e = some x) :
    e.after.state = (x.all e.before.state).state ∧
      e.course?.map (·.standing) = some (x.all e.before.state).value := by
  cases he with
  | begin f ha => cases hx
  | @resume s before after course w reply hw hready hreply =>
    rw [← resume_eq (c := c) (w := w) hx, Protocol.Event.course?_resumed]
    exact ⟨rfl, rfl⟩

theorem inert_of_late (he : e.Happens allowed answers) (hx : workOf? e = some x)
    (hlate : e.before.state.stage.isCurrent x.change.generation x.change.screen = false) : Inert x e := by
  obtain ⟨hstate, hstanding⟩ := event_of_work he hx
  have hcareful : x.Careful c := by
    obtain ⟨exchange, -, hwork⟩ := Option.bind_eq_some_iff.1 hx
    exact careful_of_work? hwork
  refine ⟨hcareful.idle hlate, fun {w} hw => ?_, fun {outcome} hdone => ?_⟩
  · simp only [Work.all, bind_apply, hw] at hstate hstanding
    exact ⟨hstate, hstanding, hcareful.waits hw⟩
  · simp only [Work.all, bind_apply, hdone] at hstate hstanding
    exact ⟨hstate, hstanding⟩

/-- Work that finds its screen left does nothing. Once the generation was opened that it is for, neither does
any work for it that goes on later, whatever the other calls do meanwhile and the outside answers. -/
theorem late_work_is_inert (h : (protocol c).Trace allowed answers start (later ++ e :: earlier) f)
    (hx : workOf? e = some x)
    (hlate : e.before.state.stage.isCurrent x.change.generation x.change.screen = false) :
    Inert x e ∧ (x.change.generation ≤ e.before.state.stage.generation →
      ∀ e' ∈ later, ∀ x', workOf? e' = some x' → x'.change = x.change → Inert x' e') := by
  obtain ⟨-, he, hlater⟩ := h.cut
  refine ⟨inert_of_late he hx hlate, fun hopened e' he' x' hx' hchange => ?_⟩
  obtain ⟨last, between, rfl⟩ := List.append_of_mem he'
  obtain ⟨hbetween, hhappens, -⟩ := hlater.cut
  refine inert_of_late hhappens hx' ?_
  rw [hchange]
  exact ((later_of_happens he).trans (later_of_trace hbetween)).not_current hopened hlate

end Events

/-- The reader leaves for the yard while the document of a story is fetched, which then comes. -/
def leavingMoves : List (Protocol.Move Call) :=
  [.begin (.boot (some "yard")), .resume 0, .begin (.go "story_a"), .begin (.go "yard"), .resume 1, .resume 1]

def leavingEvents : List (protocol {}).Event :=
  Protocol.Flight.events (P := protocol {}) (sourceOf taleDocs) ⟨ofCatalog taleCatalog, []⟩ leavingMoves

theorem length_leavingEvents : leavingEvents.length = 6 := by decide +kernel

def documentComes : (protocol {}).Event := leavingEvents.get ⟨1, by rw [length_leavingEvents]; decide⟩

/-- The place of the reader comes, which the mount asked for although it was too late. -/
def placeComes : (protocol {}).Event := leavingEvents.get ⟨0, by rw [length_leavingEvents]; decide⟩

theorem late_work_is_inert_leaving_for_the_yard :
    ∃ earlier f x x', (protocol {}).Trace Call.Plays (Fixed taleDocs) ⟨ofCatalog taleCatalog, []⟩
        ([placeComes] ++ documentComes :: earlier) f ∧
      workOf? documentComes = some x ∧ x.change = ⟨⟨"story_a"⟩, 2⟩ ∧
      documentComes.before.state.stage.current? = some ⟨⟨"yard"⟩, 3⟩ ∧ Inert x documentComes ∧
      workOf? placeComes = some x' ∧ x'.change = x.change ∧ Inert x' placeComes := by
  have hsplit : leavingEvents = [placeComes] ++ documentComes :: leavingEvents.drop 2 := by
    have hfirst : leavingEvents.drop 0 = placeComes :: leavingEvents.drop 1 := List.drop_eq_getElem_cons _
    have hsecond : leavingEvents.drop 1 = documentComes :: leavingEvents.drop 2 := List.drop_eq_getElem_cons _
    rw [List.drop_zero, hsecond] at hfirst
    exact hfirst
  have hscript : (protocol {}).Trace Call.Plays (Fixed taleDocs) ⟨ofCatalog taleCatalog, []⟩ leavingEvents _ :=
    Protocol.trace_script (fixed_sourceOf taleDocs) (by simp [leavingMoves, Call.Plays])
  have htrace := hsplit ▸ hscript
  have hwork : (workOf? documentComes).map (·.change) = some ⟨⟨"story_a"⟩, 2⟩ := by decide +kernel
  have hnext : (workOf? placeComes).map (·.change) = some ⟨⟨"story_a"⟩, 2⟩ := by decide +kernel
  obtain ⟨x, hx, hchange⟩ := Option.map_eq_some_iff.1 hwork
  obtain ⟨x', hx', hchange'⟩ := Option.map_eq_some_iff.1 hnext
  have hlate : documentComes.before.state.stage.isCurrent x.change.generation x.change.screen = false := by
    rw [hchange]
    decide +kernel
  have hopened : x.change.generation ≤ documentComes.before.state.stage.generation := by
    rw [hchange]
    decide +kernel
  have hsame : x'.change = x.change := hchange'.trans hchange.symm
  obtain ⟨hinert, hrest⟩ := late_work_is_inert htrace hx hlate
  exact ⟨_, _, x, x', htrace, hx, hchange, by decide +kernel, hinert, hx', hsame,
    hrest hopened _ List.mem_cons_self x' hx' hsame⟩

end App
end Gamebook
