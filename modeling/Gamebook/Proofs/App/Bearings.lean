import Gamebook.Proofs.App.Broadcasts
import Gamebook.Proofs.App.FirstScreen

/-! How a player moves between screens. Which screen it shows, in which generation, and which it remembers are
changed in two ways only: a call that is begun goes along a route, and a registry that comes opens on its first
screen. What any step of any call does to this is an equation: `bearings_begin` and `bearings_resume`. -/
namespace Gamebook

open Screen (Route Registry Memory)

structure Bearings where
  active : Option ScreenId
  fragment : Option ScreenId
  generation : Nat
  registry : Option Registry
  memory : Memory

namespace Bearings

variable (c : NavigationSettings)

/-- The screen that a route leads to, if it is open. -/
def leads? (b : Bearings) (route : Route) : Option ScreenId :=
  b.registry.bind fun registry => (b.memory.resolve route registry).toOption

def shown (screen : ScreenId) (b : Bearings) : Bearings where
  active := some screen
  fragment := some screen
  generation := b.generation + 1
  registry := b.registry
  memory := b.memory.note c screen

def gone (route : Route) (b : Bearings) : Bearings :=
  match b.leads? route with
  | some screen => b.shown c screen
  | none => b

/-- After a registry came for a call with a link. -/
def opened (registry : Registry) (link : Option String) (b : Bearings) : Bearings :=
  gone c (.screen (Navigation.first c registry link b.memory)) { b with registry := some registry }

variable {c} {b : Bearings} {registry : Registry} {route : Route} {screen : ScreenId}

theorem leads?_eq_some : b.leads? route = some screen ↔
    ∃ registry, b.registry = some registry ∧ b.memory.lookUp? route = some screen ∧
      registry.contains screen = true := by
  simp only [leads?, Option.bind_eq_some_iff, ← Memory.resolve_eq_ok_iff]
  refine exists_congr fun registry => and_congr_right fun _ => ?_
  cases b.memory.resolve route registry <;> simp [Except.toOption]

theorem gone_of_some (h : b.leads? route = some screen) : b.gone c route = b.shown c screen := by
  simp only [gone, h]

theorem gone_of_none (h : b.leads? route = none) : b.gone c route = b := by
  simp only [gone, h]

end Bearings

namespace Navigation

open Act

def bearings (s : Staged Navigation) : Bearings where
  active := s.stage.active
  fragment := s.stage.fragment
  generation := s.stage.generation
  registry := s.part.registry
  memory := s.part.memory

variable {c : NavigationSettings} {s : Staged Navigation}

theorem bearings_go (route : Route) : bearings (go c route s).state = (bearings s).gone c route := by
  cases hr : s.part.registry with
  | none =>
    have hshut : (bearings s).leads? route = none := by simp [Bearings.leads?, bearings, hr]
    rw [Bearings.gone_of_none hshut]
    simp only [go, bind_get, hr]
    rfl
  | some registry =>
    have hleads : (bearings s).leads? route = (s.part.memory.resolve route registry).toOption := by
      simp only [Bearings.leads?, bearings, hr, Option.bind_some]
    cases hm : s.part.memory.resolve route registry with
    | error cause =>
      rw [hm] at hleads
      rw [Bearings.gone_of_none hleads, go_of_error hr hm]
    | ok screen =>
      rw [hm] at hleads
      have hmoved := moved_go (c := c) hr hm
      rw [Bearings.gone_of_some hleads]
      simp only [Bearings.shown, bearings, hmoved.active, hmoved.alone.fragment, hmoved.generation,
        hmoved.registry, hmoved.memory]

theorem keeps_bearings_fit (w : Fitting) (reply : w.request.Reply) :
    Keeps bearings (Staged.onStage (w.resume reply)) := by
  intro s
  simp only [bearings, Staged.onStage_apply, Fitting.resume_state]
  split <;> rfl

theorem keeps_bearings_settle (w : Fitting) (reply : w.request.Reply) : Keeps bearings (settle w reply) := by
  intro s
  have hfit := keeps_bearings_fit w reply s
  rw [settle_state]
  exact hfit

theorem bearings_enter (registry : Registry) (link : Option String) :
    bearings (enter c registry link s).state = (bearings s).opened c registry link := by
  obtain ⟨hgeneration, hactive, -⟩ := Stage.ensureAll_same s.stage registry.ids
  obtain ⟨-, hfragment, -⟩ := Stage.spotlight_eq_iff.1 (Stage.spotlight_ensureAll (s := s.stage) registry.ids)
  rw [(enter_eq c registry link s).1, bearings_go]
  simp only [Bearings.opened, bearings, entered, hgeneration, hactive, hfragment]

theorem bearings_dispatch (kind : PointerKind) (p : Stage.Point) :
    bearings (dispatch c kind p s).state =
      (aim? s.stage kind p).elim (bearings s) fun raw => (bearings s).gone c (.ofText c.aliases raw) := by
  cases haim : aim? s.stage kind p with
  | none =>
    obtain ⟨notices, outcome, hdispatch⟩ := dispatch_of_no_aim (c := c) haim
    rw [hdispatch]
    rfl
  | some raw =>
    obtain ⟨notices, hdispatch⟩ := dispatch_of_aim (c := c) haim
    rw [hdispatch]
    exact bearings_go _

end Navigation

namespace App

open Act

def chart (a : App) : Staged Navigation := ⟨a.stage, a.navigation⟩

def bearings (a : App) : Bearings := Navigation.bearings a.chart

variable {c : Settings} {α β : Type}

/-- The generation and which screen is shown do not depend on panels. -/
theorem unseen_bearings : Stage.Unseen fun s => (s.now, s.spotlight) := Stage.unseen_now.prod Stage.unseen_spotlight

theorem keeps_bearings_reading {x : Act (Staged Storybook) α}
    (hx : Keeps (fun s => (s.stage.now, s.stage.spotlight)) x) : Keeps bearings (reading x) := by
  intro a
  obtain ⟨hnow, hspotlight⟩ := Prod.mk.inj (hx ⟨a.stage, a.storybook⟩)
  obtain ⟨hgeneration, hactive⟩ := Prod.mk.inj hnow
  obtain ⟨-, hfragment, -⟩ := Stage.spotlight_eq_iff.1 hspotlight
  simp only [bearings, chart, Navigation.bearings, reading, within_apply, hgeneration, hactive, hfragment]

theorem keeps_bearings_choosing {x : Act (Staged Storybook) (Progress Saving (Option NodeId))}
    (h : ∀ s, Storybook.Chooses c.story s (x s)) : Keeps bearings (reading x) :=
  keeps_bearings_reading fun s => unseen_bearings.of_chooses (h s)

theorem keeps_bearings_mounting (w : Mounting) (reply : w.request.Reply) :
    Keeps bearings (reading (w.resume c.story reply)) :=
  keeps_bearings_reading (unseen_bearings.mounting c.story w reply)

theorem keeps_bearings_saving (w : Saving) (reply : w.request.Reply) : Keeps bearings (reading (w.resume reply)) :=
  keeps_bearings_reading (unseen_bearings.saving w reply)

theorem aside_bearings (c : Settings) : Aside c bearings where
  taken _ _ := rfl
  enter change := keeps_bearings_reading (unseen_bearings.unpanelled.enter c.navigation change)
  roster _ _ := rfl
  catalog _ _ := rfl
  boots _ _ _ := rfl

theorem keeps_bearings_settle (w : Fitting) (reply : w.request.Reply) :
    Keeps bearings (navigating (Navigation.settle w reply)) :=
  fun a => Navigation.keeps_bearings_settle w reply a.chart

theorem keeps_bearings_start (link : Option String) : Keeps bearings (navigating (Navigation.start c link)) :=
  fun a => congrArg Navigation.bearings (Navigation.start_state c link a.chart)

theorem keeps_bearings_resumePump (w : Telling) (reply : w.request.Reply) : Keeps bearings (resumePump c w reply) :=
  fun a => ((aside_bearings c).resumePump w reply a).trans (keeps_bearings_mounting w.inner reply a)

theorem keeps_bearings_resumeNotify (w : Telling) (reply : w.request.Reply) :
    Keeps bearings (resumeNotify c w reply) :=
  fun a => ((aside_bearings c).leads.resumeNotify w reply a).trans (keeps_bearings_mounting w.inner reply a)

theorem keeps_bearings_takeTurn (link : Option String) : Keeps bearings (takeTurn c link) :=
  (aside_bearings c).launches.takeTurn link

variable (c) in
def route? (a : App) : Call → Option Route
  | .follow raw => some (.ofText c.navigation.aliases raw)
  | .route route => some route
  | .dispatch kind p => (Navigation.aim? a.stage kind p).map (.ofText c.navigation.aliases)
  | call => (asks? a call).map (.ofText c.navigation.aliases)

end App

def Opening.brings? : (w : Opening) → w.request.Reply → Option (Registry × Option String)
  | .registry path link, reply => (Registry.ofReply path reply).toOption.map (·, link)
  | .regions _, _ => none

def Waiting.brings? : (w : Waiting) → w.request.Reply → Option (Registry × Option String)
  | .opening w, reply => w.brings? reply
  | .booting (.opening w), reply => w.brings? reply
  | _, _ => none

namespace App

open Act

variable {c : Settings} {a : App}

theorem keeps_bearings_thenPump (screen : Option ScreenId) : Keeps bearings (thenPump c screen) :=
  (aside_bearings c).pump.bind fun _ => .pure _

theorem keeps_bearings_thenPumpTap (outcome : PointerOutcome) : Keeps bearings (thenPumpTap c outcome) :=
  (aside_bearings c).pump.bind fun _ => .pure _

theorem bearings_follow (raw : String) (a : App) :
    (navigating (Navigation.follow c.navigation raw) a).state.bearings =
      a.bearings.gone c.navigation (.ofText c.navigation.aliases raw) := Navigation.bearings_go _

theorem bearings_dispatch (kind : PointerKind) (p : Stage.Point) (a : App) :
    (navigating (Navigation.dispatch c.navigation kind p) a).state.bearings =
      ((Navigation.aim? a.stage kind p).map (Route.ofText c.navigation.aliases)).elim a.bearings
        (a.bearings.gone c.navigation) := by
  have hdispatch := Navigation.bearings_dispatch (c := c.navigation) (s := a.chart) kind p
  have haim : Navigation.aim? a.chart.stage kind p = Navigation.aim? a.stage kind p := rfl
  rw [haim] at hdispatch
  refine hdispatch.trans ?_
  cases Navigation.aim? a.stage kind p <;> rfl

theorem bearings_tap (p : Stage.Point) (a : App) : (tap c p a).state.bearings =
    ((asks? a (.tap p)).map (Route.ofText c.navigation.aliases)).elim a.bearings (a.bearings.gone c.navigation) := by
  rw [tap, bind_get]
  cases hslot : Storybook.slotAt? ⟨a.stage, a.storybook⟩ p with
  | some slot =>
    simp only [asks?, hslot]
    exact keeps_bearings_choosing (Storybook.chooses_selectAt c.story p) a
  | none =>
    simp only [asks?, hslot]
    rw [← bearings_dispatch]
    simp only [bind_apply]
    cases (navigating (Navigation.dispatch c.navigation .up p) a).value with
    | done outcome => exact keeps_bearings_thenPumpTap outcome _
    | waiting w => rfl

theorem bearings_call_go (raw : String) (a : App) : (go c raw a).state.bearings =
    a.bearings.gone c.navigation (.ofText c.navigation.aliases raw) := by
  rw [← bearings_follow, go]
  simp only [bind_apply]
  cases (navigating (Navigation.follow c.navigation raw) a).value with
  | done screen => exact keeps_bearings_thenPump screen _
  | waiting w => rfl

theorem keeps_bearings_boot (link : Option String) : Keeps bearings (boot c link) :=
  (aside_bearings c).launches.boot link

/-- A call that is begun goes along its route, if it has one, and does nothing else that moves the player. -/
theorem bearings_begin (call : Call) (a : App) : (begin c call a).state.bearings =
    (route? c a call).elim a.bearings (a.bearings.gone c.navigation) := by
  have hkeeps := aside_bearings c
  cases call with
  | start link => exact keeps_bearings_start link a
  | follow raw => exact bearings_follow raw a
  | route route => exact Navigation.bearings_go route
  | dispatch kind p => exact bearings_dispatch kind p a
  | fit w => rfl
  | preload => exact hkeeps.cataloguing _ a
  | locate story => exact hkeeps.cataloguing _ a
  | boot link => exact keeps_bearings_boot link a
  | go raw => exact bearings_call_go raw a
  | tap p => exact bearings_tap p a
  | choose slot => exact keeps_bearings_choosing (Storybook.chooses_choose c.story slot) a
  | pump => exact hkeeps.pump a
  | enter change => exact hkeeps.enter change a
  | mount v => exact keeps_bearings_reading (unseen_bearings.unpanelled.mount v) a
  | select story slot =>
    exact keeps_bearings_choosing (fun s => .selects (Storybook.selects_select c.story story slot s)) a
  | selectAt p => exact keeps_bearings_choosing (Storybook.chooses_selectAt c.story p) a
  | startAll => exact hkeeps.startAll a
  | retry name => exact hkeeps.retry name a
  | notify change => exact hkeeps.notify change a

theorem bearings_opening (w : Opening) (reply : w.request.Reply) (a : App) :
    (navigating (w.resume c reply) a).state.bearings =
      (w.brings? reply).elim a.bearings fun x => a.bearings.opened c.navigation x.1 x.2 := by
  match w, reply with
  | .registry path link, reply =>
    simp only [Opening.brings?]
    cases hloaded : Registry.ofReply path reply with
    | error cause =>
      rw [Opening.resume_of_error c link hloaded]
      rfl
    | ok registry =>
      rw [Opening.resume_of_ok c link hloaded]
      exact Navigation.bearings_enter registry link
  | .regions w, reply => exact keeps_bearings_settle w reply a

theorem bearings_booting_opening (w : Opening) (reply : w.request.Reply) (a : App) :
    (Booting.resume c (.opening w) reply a).state.bearings = (navigating (w.resume c reply) a).state.bearings := by
  simp only [Booting.resume, bind_apply]
  cases (navigating (w.resume c reply) a).value with
  | done result => exact (aside_bearings c).bootOpened result _
  | waiting w => rfl

/-- A call that goes on opens with the registry, if it has waited for it and can read it, and does nothing else
that moves the player. -/
theorem bearings_resume (w : Waiting) (reply : w.request.Reply) (a : App) : (resume c w reply a).state.bearings =
    (w.brings? reply).elim a.bearings fun x => a.bearings.opened c.navigation x.1 x.2 := by
  have hkeeps := aside_bearings c
  match w, reply with
  | .opening w, reply => exact bearings_opening w reply a
  | .following w, reply => exact keeps_bearings_settle w reply a
  | .dispatching w, reply => exact keeps_bearings_settle w reply a
  | .fitting w, reply => exact Navigation.keeps_bearings_fit w reply a.chart
  | .preloading w, reply => exact hkeeps.cataloguing _ a
  | .locating w, reply => exact hkeeps.cataloguing _ a
  | .booting (.turn link), reply => exact keeps_bearings_takeTurn link a
  | .booting (.opening w), reply => exact (bearings_booting_opening w reply a).trans (bearings_opening w reply a)
  | .booting (.starting w), reply => exact hkeeps.starting w reply a
  | .booting (.pumping w), reply => exact (hkeeps.pumping w reply a).trans (keeps_bearings_mounting w.inner reply a)
  | .going (.following w), reply =>
    exact ((keeps_bearings_settle w reply).bind fun screen => keeps_bearings_thenPump screen).bind (fun _ => .pure _) a
  | .going (.pumping _ w), reply => exact keeps_bearings_resumePump w reply a
  | .tapping (.choosing w), reply => exact keeps_bearings_saving w reply a
  | .tapping (.dispatching w), reply =>
    exact ((keeps_bearings_settle w reply).bind fun screen => keeps_bearings_thenPumpTap (.navigated screen)).bind
      (fun _ => .pure _) a
  | .tapping (.pumping _ w), reply => exact keeps_bearings_resumePump w reply a
  | .saving w, reply => exact keeps_bearings_saving w reply a
  | .pumping w, reply => exact keeps_bearings_resumePump w reply a
  | .entering w, reply => exact keeps_bearings_mounting w reply a
  | .mounting w, reply => exact keeps_bearings_mounting w reply a
  | .starting w, reply => exact hkeeps.resumeStartAll w reply a
  | .retrying w, reply => exact hkeeps.resumeRetry w reply a
  | .notifying w, reply => exact keeps_bearings_resumeNotify w reply a

variable {allowed : Call → Prop} {answers : (r : Request) → r.Reply → Prop}
variable {start f : (protocol c).Flight} {es : List (protocol c).Event} {e : (protocol c).Event}

/-- The registry that comes in an event, if it can be read, with the link of the call that waited for it. -/
def came? (e : (protocol c).Event) : Option (Registry × Option String) :=
  match e.exchange? with
  | some x => x.asked.brings? x.reply
  | none => none

inductive Steers (allowed : Call → Prop) (e : (protocol c).Event) : Prop
  | keeps : came? e = none → e.after.state.bearings = e.before.state.bearings → Steers allowed e
  | goes {call : Call} {route : Route} : came? e = none → allowed call →
      route? c e.before.state call = some route →
      e.after.state.bearings = e.before.state.bearings.gone c.navigation route → Steers allowed e
  | opens {registry : Registry} {link : Option String} : came? e = some (registry, link) →
      e.after.state.bearings = e.before.state.bearings.opened c.navigation registry link → Steers allowed e

theorem steers_of_happens (he : e.Happens allowed answers) : Steers allowed e := by
  cases he with
  | @begin f call hcall =>
    have hbegin := bearings_begin (c := c) call f.state
    cases hroute : route? c f.state call with
    | none =>
      rw [hroute] at hbegin
      exact .keeps rfl hbegin
    | some route =>
      rw [hroute] at hbegin
      exact .goes rfl hcall hroute hbegin
  | @resume s before after course w reply _ _ _ =>
    have hresume := bearings_resume (c := c) w reply s
    cases hcame : w.brings? reply with
    | none =>
      rw [hcame] at hresume
      exact .keeps hcame hresume
    | some x =>
      rw [hcame] at hresume
      exact .opens hcame hresume

/-- What every route and every opening keeps, of where the player is, a trace keeps. -/
theorem bearings_induction {P : Bearings → Prop} (h : (protocol c).Trace allowed answers start es f)
    (hstart : P start.state.bearings)
    (hgoes : ∀ {a call route}, allowed call → route? c a call = some route → P a.bearings →
      P (a.bearings.gone c.navigation route))
    (hopens : ∀ {b registry link}, (∃ e ∈ es, came? e = some (registry, link)) → P b →
      P (b.opened c.navigation registry link)) : P f.state.bearings := by
  induction h with
  | start => exact hstart
  | @step es e _ he ih =>
    have hbefore := ih fun ⟨e', he', hcame⟩ => hopens ⟨e', List.mem_cons_of_mem _ he', hcame⟩
    cases steers_of_happens he with
    | keeps _ hkeeps =>
      rw [hkeeps]
      exact hbefore
    | goes _ hcall hroute hgone =>
      rw [hgone]
      exact hgoes hcall hroute hbefore
    | opens hcame hopened =>
      rw [hopened]
      exact hopens ⟨e, List.mem_cons_self, hcame⟩ hbefore

end App
end Gamebook
