import Gamebook.App.Call
import Gamebook.Proofs.Keeps
import Gamebook.Proofs.Navigation.Steps
import Gamebook.Proofs.Storybook.Steps

/-! What a player keeps while its transitions are delivered and its crew is started. A view of the storybook
that does not see panels being taken off, `Unpanelled`, is kept when it is told of a transition. Where the
stories lead when they are told, every pump leads, `Leads`, and with the crew all that a boot does once its first
screen is shown, `Launches`. A view of the player that the stories keep is `Untold`, one that also leaves the
crew and the course of boots aside is `Aside`. -/
namespace Gamebook

namespace Storybook

open Act

variable {γ : Type} {f : Staged Storybook → γ}

variable (f) in
/-- Panels that are taken off are not seen, and neither is the lock. -/
structure Unpanelled : Prop where
  unmountIfCurrent : ∀ v, Keeps f (unmountIfCurrent v)
  unmountExcept : ∀ keep, Keeps f (unmountExcept keep)
  unlocked : ∀ s, f { s with stage := s.stage.setScrollLocked false } = f s

namespace Unpanelled

variable (h : Unpanelled f)

include h

theorem located (v : Visit) (locator : Option Locator) : Keeps f (located v locator) := by
  intro s
  have hlocated := located_located v locator s
  generalize Storybook.located v locator s = made at hlocated ⊢
  cases hlocated with
  | missing => exact h.unmountIfCurrent v s
  | known => rfl
  | opening => rfl

theorem mount (v : Visit) : Keeps f (mount v) := by
  intro s
  rw [mount_eq]
  cases s.part.catalog.found v.story with
  | done locator => exact h.located v locator s
  | waiting w => rfl

theorem enter (c : NavigationSettings) (ch : ScreenChange) : Keeps f (enter c ch) := by
  intro s
  have henters := enters_enter c ch s
  generalize Storybook.enter c ch s = made at henters ⊢
  cases henters with
  | stale => rfl
  | plain => exact (h.unlocked _).trans (h.unmountExcept none s)
  | story => exact (h.mount _ _).trans (h.unmountExcept _ s)

end Unpanelled
end Storybook

namespace App

open Act

variable {α γ : Type} {c : Settings} {R : App → App → Prop} {f : App → γ}

variable (R) in
structure Staffed : Prop extends Way R where
  roster : ∀ a roster, R a { a with roster }
  catalog : ∀ a catalog, R a { a with storybook := { a.storybook with catalog } }

namespace Staffed

variable (h : Staffed R)

include h

theorem cataloguing (x : Act Catalog α) : Along R (cataloguing x) := fun a => h.catalog a _

theorem start (who : Collaborator) : Along R ((crew c).start who) := by
  cases who with
  | catalog => exact (h.cataloguing _).bind h.toWay fun _ => .pure h.toWay _
  | story => exact .pure h.toWay _

theorem startAll : Along R (startAll c) :=
  .get_bind fun _ => (crew c).along_sweep h.toWay (fun roster a => h.roster a roster) h.start _ _

theorem resumeStartAll (w : Starting) (reply : w.request.Reply) : Along R (resumeStartAll c w reply) :=
  (h.cataloguing _).bind h.toWay fun _ =>
    (crew c).along_resumeSweep h.toWay (fun roster a => h.roster a roster) h.start w _

theorem retry (name : String) : Along R (retry c name) :=
  (crew c).along_retry h.toWay (fun roster a => h.roster a roster) h.start name

theorem resumeRetry (w : Retrying) (reply : w.request.Reply) : Along R (resumeRetry c w reply) :=
  (h.cataloguing _).bind h.toWay fun _ =>
    (crew c).along_resumeRetry h.toWay (fun roster a => h.roster a roster) w _

end Staffed

variable (c R) in
structure Leads : Prop extends Way R where
  taken : ∀ a n, R a { a with taken := n }
  enter : ∀ change, Along R (reading (Storybook.enter c.navigation change))

namespace Leads

variable (h : Leads c R)

include h

theorem tell (change : ScreenChange) (who : Collaborator) : Along R ((crew c).tell who change) := by
  cases who with
  | catalog => exact .pure h.toWay _
  | story => exact (h.enter change).bind h.toWay fun _ => .pure h.toWay _

theorem round (change : ScreenChange) (positions : List Nat) : Along R ((crew c).round change positions) :=
  (crew c).along_round h.toWay (h.tell change) positions

theorem notify (change : ScreenChange) : Along R (notify c change) := .get_bind fun _ => h.round change _

theorem deliver (receipts : List Receipt) : Along R (deliver c receipts) := by
  induction receipts with
  | nil => exact .pure h.toWay _
  | cons receipt rest ih =>
    refine Along.bind h.toWay (x := modify _) (fun a => h.taken a _) fun _ => ?_
    cases receipt with
    | missed count => exact (Along.give h.toWay _).bind h.toWay fun _ => ih
    | change ch =>
      refine (h.notify ch).bind h.toWay fun p => ?_
      cases p with
      | done => exact ih
      | waiting w => exact .pure h.toWay _

theorem pump : Along R (pump c) := .get_bind fun _ => h.deliver _

theorem resumeNotify (w : Telling) (reply : w.request.Reply) (a : App) :
    R (reading (w.inner.resume c.story reply) a).state (resumeNotify c w reply a).state := by
  simp only [App.resumeNotify, Act.bind_apply]
  cases (reading (w.inner.resume c.story reply) a).value with
  | done => exact Along.get_bind (fun _ => h.round w.change _) _
  | waiting inner => exact h.refl _

theorem resumePump (w : Telling) (reply : w.request.Reply) (a : App) :
    R (reading (w.inner.resume c.story reply) a).state (resumePump c w reply a).state := by
  refine h.trans (h.resumeNotify w reply a) ?_
  simp only [App.resumePump, Act.bind_apply]
  cases (App.resumeNotify c w reply a).value with
  | done => exact h.pump _
  | waiting w => exact h.refl _

end Leads

variable (c R) in
/-- Where all leads that a boot does once its first screen is shown. -/
structure Launches : Prop extends Leads c R, Staffed R where
  boots : ∀ a booted booting, R a { a with booted, booting }

namespace Launches

variable (h : Launches c R)

include h

theorem ready : Along R ready := fun a => h.boots a true false

theorem bootStarted (failed : Nat) : Along R (bootStarted c failed) := by
  unfold App.bootStarted
  dsimp only
  split
  on_goal 1 => refine (Along.give h.toWay _).bind h.toWay fun _ => ?_
  all_goals
    refine h.pump.bind h.toWay fun p => ?_
    cases p with
    | done => exact h.ready
    | waiting w => exact .pure h.toWay _

theorem bootOpened (result : Except LoadFault Unit) : Along R (bootOpened c result) := by
  cases result with
  | error cause => exact fun a => h.boots a a.booted false
  | ok =>
    refine h.toStaffed.startAll.bind h.toWay fun p => ?_
    cases p with
    | done failed => exact h.bootStarted failed
    | waiting w => exact .pure h.toWay _

/-- Beginning a boot does no more, since the registry has to be read first. -/
theorem takeTurn (link : Option String) : Along R (takeTurn c link) := by
  refine .get_bind fun a => ?_
  split
  · exact .pure h.toWay _
  · refine Along.bind h.toWay (x := modify _) (fun a => h.boots a a.booted true) fun _ => ?_
    refine Along.bind h.toWay (x := navigating (Navigation.start c link)) (fun a => ?_) fun p => ?_
    · simp only [navigating, within_apply, Navigation.start_state]
      exact h.refl _
    · cases p with
      | done result => exact h.bootOpened result
      | waiting w => exact .pure h.toWay _

theorem boot (link : Option String) : Along R (boot c link) := by
  refine .get_bind fun a => ?_
  split
  · exact .pure h.toWay _
  · exact h.takeTurn link

theorem opening (w : Opening) (reply : w.request.Reply) (a : App) :
    R (navigating (w.resume c reply) a).state (Booting.resume c (.opening w) reply a).state := by
  simp only [Booting.resume, Act.bind_apply]
  cases (navigating (w.resume c reply) a).value with
  | done result => exact h.bootOpened result _
  | waiting w => exact h.refl _

theorem starting (w : Starting) (reply : w.request.Reply) :
    Along R (Booting.resume c (.starting w) reply) := by
  refine (h.toStaffed.resumeStartAll w reply).bind h.toWay fun p => ?_
  cases p with
  | done failed => exact h.bootStarted failed
  | waiting w => exact .pure h.toWay _

theorem pumping (w : Telling) (reply : w.request.Reply) (a : App) :
    R (reading (w.inner.resume c.story reply) a).state (Booting.resume c (.pumping w) reply a).state := by
  refine h.trans (h.resumePump w reply a) ?_
  simp only [Booting.resume, Act.bind_apply]
  cases (App.resumePump c w reply a).value with
  | done => exact h.ready _
  | waiting w => exact h.refl _

end Launches

variable (c f) in
/-- What is told to the stories, and taken from the channel for them, is not seen. -/
structure Untold : Prop where
  taken : ∀ a n, f { a with taken := n } = f a
  enter : ∀ change, Keeps f (reading (Storybook.enter c.navigation change))

namespace Untold

variable (h : Untold c f)

include h

theorem leads : Leads c fun a b => f b = f a := ⟨way_same f, h.taken, h.enter⟩

theorem notify (change : ScreenChange) : Keeps f (notify c change) := h.leads.notify change

theorem pump : Keeps f (pump c) := h.leads.pump

/-- All that a step of a mount leaves to be done keeps what the mount itself did. -/
theorem resumePump (w : Telling) (reply : w.request.Reply) (a : App) :
    f (resumePump c w reply a).state = f (reading (w.inner.resume c.story reply) a).state :=
  h.leads.resumePump w reply a

end Untold

variable (c f) in
/-- Neither the crew is seen, nor whether a boot is in flight or done. -/
structure Aside : Prop extends Untold c f where
  roster : ∀ a roster, f { a with roster } = f a
  catalog : ∀ a catalog, f { a with storybook := { a.storybook with catalog } } = f a
  boots : ∀ a booted booting, f { a with booted, booting } = f a

namespace Aside

variable (h : Aside c f)

include h

theorem launches : Launches c fun a b => f b = f a := ⟨h.leads, h.roster, h.catalog, h.boots⟩

theorem cataloguing (x : Act Catalog α) : Keeps f (cataloguing x) := h.launches.cataloguing x

theorem startAll : Keeps f (startAll c) := h.launches.startAll

theorem resumeStartAll (w : Starting) (reply : w.request.Reply) : Keeps f (resumeStartAll c w reply) :=
  h.launches.resumeStartAll w reply

theorem retry (name : String) : Keeps f (retry c name) := h.launches.retry name

theorem resumeRetry (w : Retrying) (reply : w.request.Reply) : Keeps f (resumeRetry c w reply) :=
  h.launches.resumeRetry w reply

theorem bootOpened (result : Except LoadFault Unit) : Keeps f (bootOpened c result) :=
  h.launches.bootOpened result

theorem starting (w : Starting) (reply : w.request.Reply) : Keeps f (Booting.resume c (.starting w) reply) :=
  h.launches.starting w reply

theorem regions {w : Fitting} {reply : w.request.Reply}
    (hsettle : Keeps f (navigating (Navigation.settle w reply))) :
    Keeps f (Booting.resume c (.opening (.regions w)) reply) :=
  fun a => (h.launches.opening (.regions w) reply a).trans (hsettle a)

theorem pumping (w : Telling) (reply : w.request.Reply) (a : App) :
    f (Booting.resume c (.pumping w) reply a).state = f (reading (w.inner.resume c.story reply) a).state :=
  h.launches.pumping w reply a

theorem registry {path : String} {link : Option String} {reply : Except SourceFault Json.Value}
    {loaded : Screen.Registry} (hloaded : Screen.Registry.ofReply path reply = .ok loaded) (a : App) :
    f (Booting.resume c (.opening (.registry path link)) reply a).state =
      f (navigating (Navigation.enter c.navigation loaded link) a).state := by
  rw [← Opening.resume_of_ok c link hloaded]
  exact h.launches.opening (.registry path link) reply a

end Aside

end App
end Gamebook
