import Gamebook.Proofs.App.Aside
import Gamebook.Proofs.App.Steps

/-! Where the steps of calls lead. A step makes a choice, or it takes one step of a mount, or it ends a save, and
beside that it navigates, delivers transitions and starts the crew. What leads along a relation in each of these
leads along it in the step of any call: `Travels.begin` and `Travels.resume`. -/
namespace Gamebook

def Waiting.saving? : Waiting → Option Saving
  | .saving w => some w
  | .tapping (.choosing w) => some w
  | _ => none

def Waiting.mounting? : (w : Waiting) → w.request.Reply → Option Mounting.Exchange
  | .booting (.pumping t), reply => some ⟨t.inner, reply⟩
  | .going (.pumping _ t), reply => some ⟨t.inner, reply⟩
  | .tapping (.pumping _ t), reply => some ⟨t.inner, reply⟩
  | .pumping t, reply => some ⟨t.inner, reply⟩
  | .entering m, reply => some ⟨m, reply⟩
  | .mounting m, reply => some ⟨m, reply⟩
  | .notifying t, reply => some ⟨t.inner, reply⟩
  | _, _ => none

namespace App

open Act

variable {c : Settings} {R : App → App → Prop}

variable (c R) in
/-- Where navigations lead, beside all that a boot leads to once its first screen is shown. -/
structure Travels : Prop extends Launches c R where
  went : ∀ {a : App} {made}, Navigation.Went c.navigation ⟨a.stage, a.navigation⟩ made →
    R a { a with stage := made.state.stage, navigation := made.state.part }
  settle : ∀ (w : Fitting) (reply : w.request.Reply), Along R (navigating (Navigation.settle w reply))
  mount : ∀ v, Along R (reading (Storybook.mount v))
  fit : ∀ (w : Fitting) (reply : w.request.Reply), Along R (navigating (Staged.onStage (w.resume reply)))
  loaded : ∀ (a : App) (registry : Screen.Registry), R a
    { a with
      stage := registry.ids.foldl Stage.ensure a.stage
      navigation := { a.navigation with registry := some registry } }

def Chose (c : Settings) (a b : App) : Prop :=
  ∃ made, Storybook.Chooses c.story a.stories made ∧
    b = { a with stage := made.state.stage, storybook := made.state.part }

variable (c R) in
/-- What a call does when it goes on: it goes where navigations and deliveries lead, after a step of a mount if it
waited for one. The ends of saves stand apart. -/
inductive Resumed (w : Waiting) (reply : w.request.Reply) (a b : App) : Prop
  | along : w.mounting? reply = none → R a b → Resumed w reply a b
  | mounted (x : Mounting.Exchange) : w.mounting? reply = some x →
      R (reading (x.asked.resume c.story x.reply) a).state b → Resumed w reply a b
  | saved (s : Saving) (r : s.request.Reply) : w.saving? = some s → w.mounting? reply = none →
      b = (reading (s.resume r) a).state → Resumed w reply a b

namespace Travels

variable (h : Travels c R)

include h

theorem go (route : Screen.Route) : Along R (navigating (Navigation.go c.navigation route)) :=
  fun a => h.went (Navigation.went_go c.navigation route ⟨a.stage, a.navigation⟩)

theorem dispatch (kind : PointerKind) (p : Stage.Point) :
    Along R (navigating (Navigation.dispatch c.navigation kind p)) := by
  intro a
  obtain ⟨made, hwent, hstate, -⟩ := Navigation.went_dispatch c.navigation kind p ⟨a.stage, a.navigation⟩
  simp only [navigating, within_apply, hstate]
  exact h.went hwent

theorem start (link : Option String) : Along R (navigating (Navigation.start c link)) := by
  intro a
  simp only [navigating, within_apply, Navigation.start_state]
  exact h.refl _

theorem opening (w : Opening) (reply : w.request.Reply) : Along R (navigating (w.resume c reply)) := by
  match w, reply with
  | .registry path link, reply =>
    cases hloaded : Screen.Registry.ofReply path reply with
    | error cause =>
      rw [Opening.resume_of_error c link hloaded]
      exact fun a => h.refl _
    | ok registry =>
      rw [Opening.resume_of_ok c link hloaded]
      intro a
      obtain ⟨made, hwent, hstate, -⟩ :=
        Navigation.went_enter c.navigation registry link ⟨a.stage, a.navigation⟩
      simp only [navigating, within_apply, hstate]
      exact h.trans (h.loaded a registry) (h.went hwent)
  | .regions w, reply => exact h.settle w reply

theorem thenPump (screen : Option ScreenId) : Along R (thenPump c screen) :=
  h.pump.bind h.toWay fun _ => .pure h.toWay _

theorem thenPumpTap (outcome : PointerOutcome) : Along R (thenPumpTap c outcome) :=
  h.pump.bind h.toWay fun _ => .pure h.toWay _

/-- A call that is begun makes a choice, or it goes where navigations and deliveries lead. -/
theorem begin (call : Call) (a : App) :
    R a (begin c call a).state ∨ Chose c a (App.begin c call a).state := by
  have hdone : ∀ {α : Type} {x : Act App α} (k : α → Progress Waiting Answer), Along R x →
      R a ((x >>= fun v => pure (k v)) a).state := fun k hx => hx.bind h.toWay (fun _ => .pure h.toWay _) a
  have hchosen : ∀ {x : Act (Staged Storybook) (Progress Saving (Option NodeId))},
      Storybook.Chooses c.story a.stories (x a.stories) → Chose c a (reading x a).state :=
    fun hx => ⟨_, hx, rfl⟩
  cases call with
  | start link => exact .inl (hdone _ (h.start link))
  | follow raw => exact .inl (hdone _ (h.go _))
  | route route => exact .inl (hdone _ (h.go route))
  | dispatch kind p => exact .inl (hdone _ (h.dispatch kind p))
  | fit w => exact .inl (h.refl _)
  | preload => exact .inl (hdone _ (h.cataloguing _))
  | locate story => exact .inl (hdone _ (h.cataloguing _))
  | boot link => exact .inl (hdone _ (h.boot link))
  | go raw =>
    refine .inl (hdone (x := App.go c raw) _ ((h.go _).bind h.toWay fun p => ?_))
    cases p with
    | done screen => exact h.thenPump screen
    | waiting w => exact .pure h.toWay _
  | tap p =>
    cases hslot : Storybook.slotAt? ⟨a.stage, a.storybook⟩ p with
    | some slot =>
      refine .inr ?_
      simp only [App.begin, tap, bind_apply, get_apply, hslot]
      exact hchosen (Storybook.chooses_selectAt c.story p a.stories)
    | none =>
      refine .inl ?_
      show R a (tap c p a).state
      simp only [tap, bind_get, hslot]
      refine ((h.dispatch .up p).bind h.toWay fun q => ?_) a
      cases q with
      | done outcome => exact h.thenPumpTap outcome
      | waiting w => exact .pure h.toWay _
  | choose slot => exact .inr (hchosen (Storybook.chooses_choose c.story slot a.stories))
  | pump => exact .inl (hdone _ h.pump)
  | enter change => exact .inl (hdone _ (h.enter change))
  | mount v => exact .inl (hdone _ (h.mount v))
  | select story slot => exact .inr (hchosen (.selects (Storybook.selects_select c.story story slot a.stories)))
  | selectAt p => exact .inr (hchosen (Storybook.chooses_selectAt c.story p a.stories))
  | startAll => exact .inl (hdone _ h.startAll)
  | retry name => exact .inl (hdone _ (h.retry name))
  | notify change => exact .inl (hdone _ (h.notify change))

theorem resume (w : Waiting) (reply : w.request.Reply) (a : App) : Resumed c R w reply a (resume c w reply a).state := by
  have hdone : ∀ {α : Type} {x : Act App α} (k : α → Progress Waiting Answer), Along R x →
      R a ((x >>= fun v => pure (k v)) a).state := fun k hx => hx.bind h.toWay (fun _ => .pure h.toWay _) a
  match w, reply with
  | .opening w, reply => exact .along rfl (hdone _ (h.opening w reply))
  | .following w, reply => exact .along rfl (hdone _ (h.settle w reply))
  | .dispatching w, reply => exact .along rfl (hdone _ (h.settle w reply))
  | .fitting w, reply => exact .along rfl (hdone _ (h.fit w reply))
  | .preloading w, reply => exact .along rfl (hdone _ (h.cataloguing _))
  | .locating w, reply => exact .along rfl (hdone _ (h.cataloguing _))
  | .booting (.pumping t), reply => exact .mounted ⟨t.inner, reply⟩ rfl (h.pumping t reply a)
  | .booting (.turn link), () => exact .along rfl (hdone _ (h.takeTurn link))
  | .booting (.opening w), reply =>
    exact .along rfl (h.trans (h.opening w reply a) (h.toLaunches.opening w reply a))
  | .booting (.starting w), reply => exact .along rfl (hdone _ (h.starting w reply))
  | .going (.following w), reply =>
    exact .along rfl (hdone _ ((h.settle w reply).bind h.toWay fun screen => h.thenPump screen))
  | .going (.pumping _ t), reply => exact .mounted ⟨t.inner, reply⟩ rfl (h.resumePump t reply a)
  | .tapping (.choosing s), reply => exact .saved s reply rfl rfl rfl
  | .tapping (.dispatching w), reply =>
    exact .along rfl (hdone _ ((h.settle w reply).bind h.toWay fun screen => h.thenPumpTap (.navigated screen)))
  | .tapping (.pumping _ t), reply => exact .mounted ⟨t.inner, reply⟩ rfl (h.resumePump t reply a)
  | .saving s, reply => exact .saved s reply rfl rfl rfl
  | .pumping t, reply => exact .mounted ⟨t.inner, reply⟩ rfl (h.resumePump t reply a)
  | .entering w, reply => exact .mounted ⟨w, reply⟩ rfl (h.refl _)
  | .mounting w, reply => exact .mounted ⟨w, reply⟩ rfl (h.refl _)
  | .starting w, reply => exact .along rfl (hdone _ (h.resumeStartAll w reply))
  | .retrying w, reply => exact .along rfl (hdone _ (h.resumeRetry w reply))
  | .notifying t, reply => exact .mounted ⟨t.inner, reply⟩ rfl (h.resumeNotify t reply a)

end Travels

end App
end Gamebook
