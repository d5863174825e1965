import Gamebook.Proofs.App.Seeks
import Gamebook.Proofs.Navigation.Furnished

/-! The regions of the screen that a player shows. A step of a call is described by the fetches that it ends and by
those that it leaves to wait for, `Furnishes`; so the steps are put together as the calls are, and once no call is
under way the screen has the regions of its document: `regions_of_quiet`. -/
namespace Gamebook

def Progress.fits {ω α : Type} (t : ω → Waiting) (p : Progress ω α) : Multiset Fitting :=
  p.pending.bind fun w => (t w).fits

namespace Progress

variable {ω ω' α β : Type}

theorem fits_done (t : ω → Waiting) (v : α) : (done v).fits t = 0 := Multiset.zero_bind _

theorem fits_waiting (t : ω → Waiting) (w : ω) : (waiting w : Progress ω α).fits t = (t w).fits :=
  Multiset.singleton_bind ..

theorem fits_map (t : ω' → Waiting) (f : ω → ω') (g : α → β) (p : Progress ω α) :
    (p.map f g).fits t = p.fits fun w => t (f w) := by
  rw [fits, pending_map, Multiset.bind_map]
  rfl

theorem fits_eq_pending {t : Fitting → Waiting} (h : ∀ w, (t w).fits = {w}) (p : Progress Fitting α) :
    p.fits t = p.pending := by
  rw [fits, funext h, Multiset.bind_singleton, Multiset.map_id']

theorem fits_eq_zero {t : ω → Waiting} (h : ∀ w, (t w).fits = 0) (p : Progress ω α) : p.fits t = 0 := by
  rw [fits, funext h, Multiset.bind_zero]

end Progress

namespace Stage

theorem unseen_regions : Unseen regions where
  mount s screen panel := by
    show ((s.ensure screen).adjust screen fun f => { f with panel := some panel }).regions = s.regions
    rw [regions_adjust, regions_ensure]
    exact fun _ => rfl
  unmount s screen := by
    rw [unmount_eq]
    exact regions_adjust s screen fun _ => rfl
  scroll s screen top := regions_adjust s screen fun _ => rfl
  unlocked _ := rfl

theorem scenery_eq {s t : Stage}
    (h : (t.now, t.spotlight, t.regions) = (s.now, s.spotlight, s.regions)) : t.scenery = s.scenery := by
  obtain ⟨hnow, hrest⟩ := Prod.mk.inj h
  obtain ⟨hspotlight, hregions⟩ := Prod.mk.inj hrest
  obtain ⟨hactive, -, hlit⟩ := spotlight_eq_iff.1 hspotlight
  rw [scenery, hactive, (Prod.mk.inj hnow).1, hlit, hregions]
  rfl

theorem unseen_scenery : Unseen scenery := by
  have h := unseen_now.prod (unseen_spotlight.prod unseen_regions)
  exact ⟨fun s screen panel => scenery_eq (h.mount s screen panel), fun s screen => scenery_eq (h.unmount s screen),
    fun s screen top => scenery_eq (h.scroll s screen top), fun s => scenery_eq (h.unlocked s)⟩

end Stage

namespace App

open Act Navigation

variable {α β ω : Type} {c : Settings} {docs : String → Except SourceFault Json.Value} {known : Navigation}

def scenery (a : App) : Stage.Scenery × Option Screen.Registry := Navigation.scenery a.chart

theorem keeps_scenery_reading {x : Act (Staged Storybook) α} (h : Keeps (fun s => s.stage.scenery) x) :
    Keeps scenery (reading x) :=
  fun a => Prod.ext (h a.stories) rfl

theorem aside_scenery (c : Settings) : Aside c scenery where
  taken _ _ := rfl
  enter change := keeps_scenery_reading (Stage.unseen_scenery.unpanelled.enter c.navigation change)
  roster _ _ := rfl
  catalog _ _ := rfl
  boots _ _ _ := rfl

theorem keeps_scenery_choosing {x : Act (Staged Storybook) (Progress Saving (Option NodeId))}
    (h : ∀ s, Storybook.Chooses c.story s (x s)) : Keeps scenery (reading x) :=
  keeps_scenery_reading fun s => Stage.unseen_scenery.of_chooses (h s)

theorem keeps_scenery_mounting (w : Mounting) (reply : w.request.Reply) :
    Keeps scenery (reading (w.resume c.story reply)) :=
  keeps_scenery_reading (Stage.unseen_scenery.mounting c.story w reply)

theorem keeps_scenery_resumePump (w : Telling) (reply : w.request.Reply) : Keeps scenery (resumePump c w reply) :=
  fun a => ((aside_scenery c).resumePump w reply a).trans (keeps_scenery_mounting w.inner reply a)

variable (docs known) in
/-- A step that ends the fetches `old` and leaves those that `new` says. -/
def Furnishes (old : Multiset Fitting) (x : Act App α) (new : α → Multiset Fitting) : Prop :=
  ∀ a others, Furnished docs known (old + others) a.chart →
    Furnished docs known (new (x a).value + others) (x a).state.chart

namespace Furnishes

variable {old : Multiset Fitting} {x : Act App α} {k : α → Act App β} {m : α → Multiset Fitting}
variable {new : β → Multiset Fitting}

theorem pure {new : α → Multiset Fitting} (v : α) : Furnishes docs known (new v) (pure v : Act App α) new :=
  fun _ _ h => h

theorem done (t : ω → Waiting) (v : α) :
    Furnishes docs known 0 (Pure.pure (.done v) : Act App (Progress ω α)) (Progress.fits t) := by
  rw [← Progress.fits_done t v]
  exact .pure _

theorem waiting (t : ω → Waiting) (w : ω) :
    Furnishes docs known (t w).fits (Pure.pure (.waiting w) : Act App (Progress ω α)) (Progress.fits t) := by
  rw [← Progress.fits_waiting (α := α) t w]
  exact .pure _

theorem bind (hx : Furnishes docs known old x m) (hk : ∀ v, Furnishes docs known (m v) (k v) new) :
    Furnishes docs known old (x >>= k) new :=
  fun a others h => hk (x a).value (x a).state others (hx a others h)

theorem of_keeps (hx : Keeps scenery x) : Furnishes docs known old x fun _ => old :=
  fun a _ h => h.of_scenery (hx a)

theorem of_idle {new : α → Multiset Fitting} (hx : Keeps scenery x) (hnew : ∀ v, new v = 0) :
    Furnishes docs known 0 x new := by
  obtain rfl : new = fun _ => 0 := funext hnew
  exact of_keeps hx

theorem bind_progress {x : Act App (Progress ω α)} {k : Progress ω α → Act App β} {t : ω → Waiting}
    (hx : Furnishes docs known old x (Progress.fits t))
    (hdone : ∀ v, Furnishes docs known 0 (k (.done v)) new)
    (hwaiting : ∀ w, Furnishes docs known (t w).fits (k (.waiting w)) new) :
    Furnishes docs known old (x >>= k) new := by
  refine hx.bind fun p => ?_
  cases p with
  | done v =>
    rw [Progress.fits_done]
    exact hdone v
  | waiting w =>
    rw [Progress.fits_waiting]
    exact hwaiting w

theorem map {ω' : Type} {x : Act App (Progress ω α)} {f : ω → ω'} {g : α → β} {t : ω' → Waiting}
    (hx : Furnishes docs known old x (Progress.fits fun w => t (f w))) :
    Furnishes docs known old (x >>= fun p => Pure.pure (p.map f g)) (Progress.fits t) := by
  refine hx.bind fun p => ?_
  rw [← Progress.fits_map t f g p]
  exact .pure _

theorem call {x : Act App (Progress ω α)} {t : ω → Waiting} {g : α → Answer}
    (hx : Furnishes docs known old x (Progress.fits t)) :
    Furnishes docs known old (x >>= fun p => Pure.pure (p.map t g)) (Progress.fits fun w => w) :=
  map (t := fun w => w) hx

end Furnishes

theorem furnishes_move {x : Act (Staged Navigation) (Progress Fitting α)} {t : Fitting → Waiting}
    (ht : ∀ w, (t w).fits = {w})
    (hx : ∀ s, ∃ made, Went c.navigation s made ∧ (x s).state = made.state ∧
      (x s).value.pending = made.value.pending) :
    Furnishes docs known 0 (navigating x) (Progress.fits t) := by
  intro a others h
  obtain ⟨made, hwent, hstate, hpending⟩ := hx a.chart
  rw [zero_add] at h
  have hwent := h.went hwent
  rw [← hstate, ← hpending, ← Progress.fits_eq_pending ht] at hwent
  exact hwent

theorem furnishes_follow (raw : String) {t : Fitting → Waiting} (ht : ∀ w, (t w).fits = {w}) :
    Furnishes docs known 0 (navigating (follow c.navigation raw)) (Progress.fits t) :=
  furnishes_move ht fun s => ⟨_, went_go c.navigation _ s, rfl, rfl⟩

theorem furnishes_settle (w : Fitting) :
    Furnishes docs known {w} (navigating (settle w (docs w.document.text))) fun _ => 0 := by
  intro a others h
  rw [zero_add]
  exact h.settle

theorem furnishes_pump {t : Telling → Waiting} (ht : ∀ w, (t w).fits = 0) :
    Furnishes docs known 0 (pump c) (Progress.fits t) :=
  .of_idle (aside_scenery c).pump (Progress.fits_eq_zero ht)

theorem furnishes_resumePump (w : Telling) (reply : w.request.Reply) {t : Telling → Waiting}
    (ht : ∀ w, (t w).fits = 0) : Furnishes docs known 0 (resumePump c w reply) (Progress.fits t) :=
  .of_idle (keeps_scenery_resumePump w reply) (Progress.fits_eq_zero ht)

theorem furnishes_thenPump (screen : Option ScreenId) :
    Furnishes docs known 0 (thenPump c screen) (Progress.fits .going) :=
  (furnishes_pump fun _ => rfl).map

theorem furnishes_thenPumpTap (outcome : PointerOutcome) :
    Furnishes docs known 0 (thenPumpTap c outcome) (Progress.fits .tapping) :=
  (furnishes_pump fun _ => rfl).map

theorem furnishes_ready : Furnishes docs known 0 ready (Progress.fits .booting) :=
  (Furnishes.of_keeps fun _ => rfl).bind fun _ => (Furnishes.of_keeps fun _ => rfl).bind fun _ => .done _ _

theorem furnishes_bootStarted (failed : Nat) :
    Furnishes docs known 0 (bootStarted c failed) (Progress.fits .booting) := by
  unfold bootStarted
  dsimp only
  split
  on_goal 1 => refine (Furnishes.of_keeps (Keeps.give _)).bind fun _ => ?_
  all_goals
    refine (furnishes_pump (t := fun w => .booting (.pumping w)) fun _ => rfl).bind_progress ?_ fun _ => .waiting _ _
    exact fun _ => furnishes_ready

theorem furnishes_startAll : Furnishes docs known 0 (startAll c) (Progress.fits fun w => .booting (.starting w)) :=
  .of_idle (aside_scenery c).startAll (Progress.fits_eq_zero fun _ => rfl)

theorem furnishes_bootOpened (result : Except LoadFault Unit) :
    Furnishes docs known 0 (bootOpened c result) (Progress.fits .booting) := by
  cases result with
  | error cause =>
    exact (Furnishes.of_keeps (Keeps.give _)).bind fun _ => (Furnishes.of_keeps fun _ => rfl).bind fun _ => .done _ _
  | ok => exact furnishes_startAll.bind_progress furnishes_bootStarted fun _ => .waiting _ _

theorem furnishes_start (link : Option String) :
    Furnishes docs known 0 (navigating (Navigation.start c link))
      (Progress.fits fun w => .booting (.opening w)) := by
  intro a others h
  have hstate : (navigating (Navigation.start c link) a).state.chart = a.chart := Navigation.start_state c link a.chart
  rw [hstate]
  simp only [navigating, within_apply, Navigation.start, bind_get]
  cases a.navigation.registry <;> exact h

theorem furnishes_takeTurn (link : Option String) :
    Furnishes docs known 0 (takeTurn c link) (Progress.fits .booting) := by
  refine (Furnishes.of_keeps (x := get) fun _ => rfl).bind fun a => ?_
  split
  · exact .done _ _
  · refine Furnishes.bind (m := fun _ => 0) (.of_keeps fun _ => rfl) fun _ => ?_
    exact (furnishes_start link).bind_progress furnishes_bootOpened fun _ => .waiting _ _

theorem furnishes_boot (link : Option String) : Furnishes docs known 0 (boot c link) (Progress.fits .booting) := by
  refine (Furnishes.of_keeps (x := get) fun _ => rfl).bind fun a => ?_
  split
  · exact .waiting Waiting.booting (.turn link)
  · exact furnishes_takeTurn link

theorem furnishes_registry {path : String} {reply : Except SourceFault Json.Value}
    (hknown : ∀ registry, Screen.Registry.ofReply path reply = .ok registry → known.registry = some registry)
    (link : Option String) :
    Furnishes docs known 0 (navigating ((Opening.registry path link).resume c reply))
      (Progress.fits fun w => .booting (.opening w)) := by
  cases hloaded : Screen.Registry.ofReply path reply with
  | error cause =>
    rw [Opening.resume_of_error c link hloaded]
    exact fun _ _ h => h
  | ok registry =>
    rw [Opening.resume_of_ok c link hloaded]
    intro a others h
    obtain ⟨made, hwent, hstate, hvalue⟩ := went_enter c.navigation registry link a.chart
    have hentered := (h.entered (hknown registry hloaded)).went hwent
    show Furnished docs known (Progress.fits _ (enter c.navigation registry link a.chart).value + others)
      (enter c.navigation registry link a.chart).state
    rw [hstate, hvalue, Progress.fits_map, Progress.fits_eq_pending fun _ => rfl]
    rwa [zero_add] at hentered

theorem furnishes_go (raw : String) : Furnishes docs known 0 (App.go c raw) (Progress.fits .going) :=
  (furnishes_follow raw (t := fun w => .going (.following w)) fun _ => rfl).bind_progress furnishes_thenPump
    fun _ => .waiting _ _

theorem furnishes_choosing {x : Act (Staged Storybook) (Progress Saving (Option NodeId))}
    (hx : ∀ s, Storybook.Chooses c.story s (x s)) {t : Saving → Waiting} (ht : ∀ w, (t w).fits = 0) :
    Furnishes docs known 0 (reading x) (Progress.fits t) :=
  .of_idle (keeps_scenery_choosing hx) (Progress.fits_eq_zero ht)

theorem furnishes_saving (w : Saving) (reply : w.request.Reply) :
    Furnishes docs known 0 (reading (w.resume reply)) fun _ => 0 :=
  .of_keeps (keeps_scenery_reading (Stage.unseen_scenery.saving w reply))

theorem furnishes_tap (p : Stage.Point) : Furnishes docs known 0 (App.tap c p) (Progress.fits .tapping) := by
  refine (Furnishes.of_keeps (x := get) fun _ => rfl).bind fun a => ?_
  split
  · exact (furnishes_choosing (Storybook.chooses_selectAt c.story p) fun _ => rfl).map
  · have hmove : Furnishes docs known 0 (navigating (dispatch c.navigation .up p))
        (Progress.fits fun w => .tapping (.dispatching w)) :=
      furnishes_move (fun _ => rfl) fun s => went_dispatch c.navigation .up p s
    exact hmove.bind_progress furnishes_thenPumpTap fun _ => .waiting _ _

theorem furnishes_begin {call : Call} (hplays : call.Plays) :
    Furnishes docs known 0 (begin c call) (Progress.fits fun w => w) := by
  cases call with
  | boot link => exact (furnishes_boot link).call
  | go raw => exact (furnishes_go raw).call
  | tap p => exact (furnishes_tap p).call
  | choose slot => exact (furnishes_choosing (Storybook.chooses_choose c.story slot) fun _ => rfl).call
  | pump => exact (furnishes_pump fun _ => rfl).call
  | _ => exact hplays.elim

variable (c docs) in
def informed : Navigation where
  registry := (Screen.Registry.ofReply c.content.registryPath (docs c.content.registryPath)).toOption

theorem furnishes_opening {old : Multiset Fitting} (w : Opening) {reply : w.request.Reply}
    (hx : Furnishes docs known old (navigating (w.resume c reply)) (Progress.fits fun w => .booting (.opening w))) :
    Furnishes docs known old (Booting.resume c (.opening w) reply) (Progress.fits .booting) :=
  hx.bind_progress furnishes_bootOpened fun _ => .waiting _ _

theorem furnishes_regions (w : Fitting) :
    Furnishes docs known {w} (navigating ((Opening.regions w).resume c (docs w.document.text)))
      (Progress.fits fun w => .booting (.opening w)) := by
  intro a others h
  exact furnishes_settle w a others h

theorem furnishes_resume {first : Catalog} {w : Waiting} (hregular : w.Regular first)
    (hseeks : w.Seeks c.content.registryPath) {reply : w.request.Reply} (hreply : Fixed docs w.request reply) :
    Furnishes docs (informed c docs) w.fits (resume c w reply) (Progress.fits fun w => w) := by
  match w, reply with
  | .booting (.turn link), () => exact (furnishes_takeTurn link).call
  | .booting (.opening (.registry path link)), reply =>
    obtain rfl : path = c.content.registryPath := hseeks
    obtain rfl : reply = docs c.content.registryPath := hreply
    refine (furnishes_opening (.registry _ link) (furnishes_registry (fun registry hloaded => ?_) link)).call
    rw [informed, hloaded]
    rfl
  | .booting (.opening (.regions w)), reply =>
    obtain rfl : reply = docs w.document.text := hreply
    exact (furnishes_opening (.regions w) (furnishes_regions w)).call
  | .booting (.starting w), reply =>
    have hstarting : Furnishes docs (informed c docs) 0 (resumeStartAll c w reply)
        (Progress.fits fun w => .booting (.starting w)) :=
      .of_idle ((aside_scenery c).resumeStartAll w reply) (Progress.fits_eq_zero fun _ => rfl)
    exact (hstarting.bind_progress furnishes_bootStarted fun _ => .waiting _ _).call
  | .booting (.pumping w), reply =>
    have hpumping : Furnishes docs (informed c docs) 0 (resumePump c w reply)
        (Progress.fits fun w => .booting (.pumping w)) := furnishes_resumePump w reply fun _ => rfl
    exact (hpumping.bind_progress (fun _ => furnishes_ready) fun _ => .waiting _ _).call
  | .going (.following w), reply =>
    obtain rfl : reply = docs w.document.text := hreply
    exact ((furnishes_settle w).bind furnishes_thenPump).call
  | .going (.pumping screen w), reply => exact (furnishes_resumePump w reply fun _ => rfl).map.call
  | .tapping (.choosing w), reply =>
    exact ((furnishes_saving w reply).bind fun _ => .done _ _).call
  | .tapping (.dispatching w), reply =>
    obtain rfl : reply = docs w.document.text := hreply
    exact ((furnishes_settle w).bind fun screen => furnishes_thenPumpTap (.navigated screen)).call
  | .tapping (.pumping outcome w), reply => exact (furnishes_resumePump w reply fun _ => rfl).map.call
  | .saving w, reply => exact (furnishes_saving w reply).bind fun _ => .done _ _
  | .pumping w, reply => exact (furnishes_resumePump w reply fun _ => rfl).call

variable {catalog : Catalog} {es : List (protocol c).Event} {f : (protocol c).Flight}

/-- As long as the documents do not change, a player is furnished up to the regions that its calls wait for. -/
theorem furnished_of_trace (h : (protocol c).Trace Call.Plays (Fixed docs) ⟨ofCatalog catalog, []⟩ es f) :
    Furnished docs (informed c docs) (f.pending.bind Waiting.fits) f.state.chart := by
  induction h with
  | start => exact .start
  | @step es e hbefore he ih =>
    cases he with
    | begin f hplays =>
      rw [Protocol.Event.pending_begun, Multiset.add_bind]
      exact furnishes_begin (c := c) hplays f.state _ (by rwa [zero_add])
    | @resume s before after course w reply hw hready hreply =>
      let e := Protocol.Event.resumed (P := protocol c) s before course after w reply
      have hwaits : w ∈ e.before.pending := Protocol.Event.mem_pending_resumed reply hw
      obtain ⟨others, hwaiting, hafter⟩ : ∃ others, e.before.pending = {w} + others ∧ _ :=
        Protocol.Event.pending_resumed reply hw
      obtain ⟨⟨queue, haloft⟩, -⟩ := aloft_of_run (Protocol.run_iff_trace.2 ⟨es, hbefore, rfl⟩)
      rw [hwaiting, Multiset.add_bind, Multiset.singleton_bind] at ih
      rw [hafter, Multiset.add_bind]
      exact furnishes_resume (haloft.regular w hwaits) (seeks_of_trace hbefore w hwaits) hreply s _ ih

/-- Once all calls have returned, the screen that is shown has the regions of its document. -/
theorem regions_of_quiet {log : List (App × App)}
    (hrun : (protocol c).Run Call.Plays (Fixed docs) ⟨ofCatalog catalog, []⟩ log f) (hquiet : f.Quiet)
    {screen : ScreenId} (hactive : f.state.stage.active = some screen) :
    f.state.stage.lit screen = true ∧ f.state.stage.regions screen = (informed c docs).regionsOf docs screen := by
  obtain ⟨es, htrace, -⟩ := Protocol.run_iff_trace.1 hrun
  have hfurnished := furnished_of_trace htrace
  rw [hquiet.pending_eq_zero, Multiset.zero_bind] at hfurnished
  refine ⟨hfurnished.lit screen hactive, (hfurnished.regions screen hactive).resolve_right ?_⟩
  rintro ⟨w, hw, -⟩
  exact Multiset.notMem_zero w hw

end App
end Gamebook
