import Gamebook.Proofs.App.Calls

/-! Boots, stage by stage. While a boot waits for the crew to start, its navigation waits in the channel;
once the crew is started the boot pumps. A boot itself takes nothing from the channel before that. -/
namespace Gamebook.App

variable {answers : (r : Request) → r.Reply → Prop} {c : Settings} {first : Catalog}
variable {told : Multiset Taken} {queue : List ScreenChange} {others : Multiset Waiting} {a b : App}

variable (answers c first) in
structure Carried (told : Multiset Taken) (others : Multiset Waiting) (a : App)
    (made : Made App (Progress Booting (Except LoadFault Unit))) : Prop where
  aloft : ∃ queue, Aloft answers c first (↑(received a made.state) + told) queue
    (made.value.pending.map .booting + others) made.state
  hears : a.hears = true → made.state.hears = true
  heard : ∀ e ∈ received a made.state, e.told = true
  loaded : made.value = .done (.ok ()) → made.state.hears = true

/-- The other calls, none of which is a boot that has its turn. -/
structure Beside (first : Catalog) (others : Multiset Waiting) : Prop where
  regular : ∀ w ∈ others, w.Regular first
  seats : others.bind Waiting.seats = 0

/-- Whatever came before in the same step, if it took nothing from the channel. -/
theorem Carried.after {made : Made App (Progress Booting (Except LoadFault Unit))}
    (h : Carried answers c first told others b made) (htaken : b.taken = a.taken)
    (hhears : a.hears = true → b.hears = true) (notices : List Notice) :
    Carried answers c first told others a ⟨made.state, notices, made.value⟩ where
  aloft := by
    rw [received_congr htaken.symm]
    exact h.aloft
  hears hh := h.hears (hhears hh)
  heard := by
    rw [received_congr htaken.symm]
    exact h.heard
  loaded := h.loaded

theorem carried_waiting {w : Booting} (hbeside : Beside first others)
    (hkept : Kept answers c first told queue ((Waiting.booting w).fits + others.bind Waiting.fits)
      ((Waiting.booting w).mounts + others.bind Waiting.mounts) a)
    (hw : (Waiting.booting w).Regular first) (hseated : Seated a queue (Waiting.booting w).seats)
    (notices : List Notice) : Carried answers c first told others a ⟨a, notices, .waiting w⟩ := by
  have haloft : Aloft answers c first told queue ({.booting w} + others) a := by
    rw [aloft_singleton_add, hbeside.seats, add_zero]
    exact ⟨hkept, hw, hbeside.regular, hseated⟩
  exact ⟨(haloft.advanced rfl rfl).aloft, id, fun e he => absurd he (notMem_received rfl e),
    fun h => by cases h⟩

theorem carried_done (hbeside : Beside first others)
    (hkept : Kept answers c first told queue (others.bind Waiting.fits) (others.bind Waiting.mounts) b)
    (hseated : Seated b queue 0) (htaken : b.taken = a.taken) (hhears : b.hears = a.hears)
    (notices : List Notice) (result : Except LoadFault Unit) (hok : result = .ok () → b.hears = true) :
    Carried answers c first told others a ⟨b, notices, .done result⟩ := by
  have haloft : Aloft answers c first told queue (0 + others) b := by
    rw [← hbeside.seats] at hseated
    rw [zero_add]
    exact ⟨hkept, hbeside.regular, hseated⟩
  exact ⟨(haloft.advanced htaken hhears).aloft, fun h => hhears.trans h,
    fun e he => absurd he (notMem_received htaken e), fun h => hok (by cases h; rfl)⟩

theorem carried_pumped {pumping : Made App (Progress Telling Unit)}
    {made : Made App (Progress Booting (Except LoadFault Unit))} (hbeside : Beside first others)
    (h : Pumped answers c first told (others.bind Waiting.fits) (others.bind Waiting.mounts) a pumping)
    (hhears : a.hears = true) (hbooting : a.booting = true) (hbooted : a.booted = false)
    (hdone : pumping.value = .done () →
      made.state = { pumping.state with booted := true, booting := false } ∧ made.value.pending = 0)
    (hwaiting : ∀ w, pumping.value = .waiting w →
      made.state = pumping.state ∧ made.value = .waiting (.pumping w)) :
    Carried answers c first told others a made := by
  have hkept := h.kept
  have hstill : pumping.state.hears = true := h.hears.trans hhears
  have hends : made.state.hears = true := by
    cases hv : pumping.value with
    | done =>
      rw [(hdone hv).1]
      exact hstill
    | waiting w =>
      rw [(hwaiting w hv).1]
      exact hstill
  refine ⟨⟨[], ?_⟩, fun _ => hends, fun e he => (told_of_mem_received he).trans hends, fun _ => hends⟩
  cases hv : pumping.value with
  | done =>
    obtain ⟨hstate, hpending⟩ := hdone hv
    rw [hv, Progress.pending_done, Multiset.map_zero, zero_add] at hkept
    have hfree : Seated { pumping.state with booted := true, booting := false } []
        (others.bind Waiting.seats) := by
      rw [hbeside.seats]
      exact .free rfl hstill.symm rfl
    rw [hstate, hpending, Multiset.map_zero, zero_add]
    exact ⟨hkept.boots true false, hbeside.regular, hfree⟩
  | waiting w =>
    obtain ⟨hstate, hvalue⟩ := hwaiting w hv
    have hposition := h.position w (by rw [hv]; exact Multiset.mem_singleton_self w)
    rw [hv, Progress.pending_waiting, Multiset.map_singleton] at hkept
    have hseated : Seated pumping.state [] {Booting.pumping w} :=
      .taken _ (h.booting.trans hbooting) (h.booted.trans hbooted) ⟨hstill, rfl⟩
    rw [hstate, hvalue, Progress.pending_waiting, Multiset.map_singleton, aloft_singleton_add,
      hbeside.seats, add_zero]
    refine ⟨?_, hposition, hbeside.regular, hseated⟩
    simpa [Waiting.fits, Waiting.mounts] using hkept

theorem ready_apply (a : App) : ready a = ⟨{ a with booted := true, booting := false }, [], .done (.ok ())⟩ :=
  rfl

theorem carried_bootStarted (hbeside : Beside first others)
    (hkept : Kept answers c first told queue (others.bind Waiting.fits) (others.bind Waiting.mounts) a)
    (hqueue : queue.length ≤ 1) (hhears : a.hears = true) (hbooting : a.booting = true)
    (hbooted : a.booted = false) (failed : Nat) :
    Carried answers c first told others a (bootStarted c failed a) := by
  refine carried_pumped hbeside (pumped_pump (c := c) hkept fun _ => hqueue) hhears hbooting hbooted
    (fun hv => ?_) fun w hv => ?_
  all_goals
    by_cases hfailed : 0 < failed <;>
      simp [bootStarted, hfailed, Act.bind_apply, hv, ready_apply]

theorem Kept.started {fits : Multiset Fitting} {mounts : Multiset Mounting}
    (h : Kept answers c first told queue fits mounts a) {catalog : Catalog}
    (hfrom : first.From answers catalog) (status : Roster.Status) :
    Kept answers c first told queue fits mounts
      { a with storybook := { a.storybook with catalog }, roster := crewOf status true } := by
  have hhears : App.hears { a with
      storybook := { a.storybook with catalog }, roster := crewOf status true } = true :=
    hears_of_crewOf rfl
  refine ⟨⟨status, ?_⟩, h.channel, h.ledger, ?_, fun hdeaf => ?_⟩
  · rw [hhears]
  · exact h.tells.of_same (h.tells.shown.of_same h.tells.shown.sound (fun _ => rfl) rfl rfl rfl)
      ⟨hfrom, h.tells.sourced.graphs⟩ rfl rfl rfl
  · rw [hhears] at hdeaf
    cases hdeaf

theorem carried_bootOpened (hbeside : Beside first others)
    (hkept : Kept answers c first told queue (others.bind Waiting.fits) (others.bind Waiting.mounts) a)
    (hqueue : queue.length ≤ 1) (hhears : a.hears = false) (hbooting : a.booting = true)
    (hbooted : a.booted = false) :
    Carried answers c first told others a (bootOpened c (.ok ()) a) := by
  obtain ⟨status, hroster⟩ := hkept.crew
  rw [hhears] at hroster
  have hstarts := starts_startAll (c := c) hroster
  simp only [bootOpened, Act.bind_apply]
  generalize startAll c a = made at hstarts ⊢
  cases hstarts with
  | @waiting w notices hw =>
    have hpath := hkept.tells.sourced.catalog.preloading hw
    refine carried_waiting (w := .starting ⟨0, 0, w⟩) hbeside ?_ ⟨rfl, hpath⟩
      (.taken _ hbooting hbooted ⟨hhears, hqueue⟩) _
    simpa [Waiting.fits, Waiting.mounts] using hkept
  | @done status failed notices _ =>
    have hstarted := hkept.started hkept.tells.sourced.catalog status
    have hcarried := carried_bootStarted hbeside hstarted hqueue (hears_of_crewOf rfl) hbooting hbooted failed
    exact hcarried.after (a := a) rfl (fun _ => hears_of_crewOf rfl) _

theorem carried_opened (hbeside : Beside first others) {x : Act (Staged Navigation)
      (Progress Opening (Except LoadFault Unit))}
    (hhears : a.hears = false) (hbooting : a.booting = true) (hbooted : a.booted = false)
    (hwaiting : ∀ w, (navigating x a).value = .waiting w →
      Kept answers c first told [] ((Waiting.booting (.opening w)).fits + others.bind Waiting.fits)
        (others.bind Waiting.mounts) (navigating x a).state)
    (hdone : ∀ result, (navigating x a).value = .done result → ∃ queue, queue.length ≤ 1 ∧
      (result ≠ .ok () → queue = []) ∧
      Kept answers c first told queue (others.bind Waiting.fits) (others.bind Waiting.mounts)
        (navigating x a).state)
    {made : Made App (Progress Booting (Except LoadFault Unit))}
    (hmade : made = (do
      match ← navigating x with
      | .done result => bootOpened c result
      | .waiting w => return .waiting (.opening w) : Act App _) a) :
    Carried answers c first told others a made := by
  subst hmade
  simp only [Act.bind_apply]
  cases hv : (navigating x a).value with
  | waiting w =>
    have hkept := hwaiting w hv
    rw [← zero_add (others.bind Waiting.mounts)] at hkept
    have hcarried := carried_waiting (w := .opening w) hbeside hkept trivial
      (.taken _ hbooting hbooted ⟨hhears, rfl⟩) []
    exact hcarried.after (a := a) rfl id _
  | done result =>
    obtain ⟨queue, hqueue, hfailed, hkept⟩ := hdone result hv
    match result with
    | .ok () => exact (carried_bootOpened hbeside hkept hqueue hhears hbooting hbooted).after (a := a) rfl id _
    | .error cause =>
      rw [hfailed (by simp)] at hkept
      have hcarried := carried_done (a := (navigating x a).state) hbeside
        (hkept.boots a.booted false) (.free rfl (hbooted.trans hhears.symm) rfl) rfl rfl []
        (.error cause) fun h => by cases h
      exact hcarried.after (a := a) rfl id _

theorem Kept.enter {fits : Multiset Fitting} {mounts : Multiset Mounting}
    (h : Kept answers c first told [] fits mounts a) (registry : Screen.Registry) (link : Option String) :
    ∃ (moved : Progress Fitting (Option ScreenId)) (sent : List ScreenChange), sent.length ≤ 1 ∧
      (moved.pending ≠ 0 → sent = []) ∧
      (navigating (Navigation.enter c.navigation registry link) a).value =
        moved.map Opening.regions (fun _ => .ok ()) ∧
      Kept answers c first told sent (moved.pending + fits) mounts
        (navigating (Navigation.enter c.navigation registry link) a).state := by
  obtain ⟨made, hwent, hstate, hvalue⟩ :=
    Navigation.went_enter c.navigation registry link ⟨a.stage, a.navigation⟩
  obtain ⟨hgeneration, hactive, hlocked, hpanel, hsound⟩ := Stage.ensureAll_same a.stage registry.ids
  -- the player before it goes anywhere
  have hloaded := h.of_same (b := { a with
      stage := registry.ids.foldl Stage.ensure a.stage
      navigation := { a.navigation with registry := some registry } })
    rfl rfl rfl hgeneration hactive rfl
    (h.tells.shown.of_same (hsound h.tells.shown.sound) hpanel hlocked rfl rfl) h.tells.sourced
  obtain ⟨sent, hsent, hnone, hmoved⟩ := hloaded.went (by decide) hwent
  have hplayer : (navigating (Navigation.enter c.navigation registry link) a).state =
      { a with stage := made.state.stage, navigation := made.state.part } := by
    rw [← hstate]
    rfl
  rw [hplayer]
  exact ⟨made.value, sent, hsent, hnone, hvalue, hmoved⟩

theorem carried_registry (hbeside : Beside first others) {path : String} {link : Option String}
    (hkept : Kept answers c first told [] (others.bind Waiting.fits) (others.bind Waiting.mounts) a)
    (hhears : a.hears = false) (hbooting : a.booting = true) (hbooted : a.booted = false)
    (reply : Except SourceFault Json.Value) :
    Carried answers c first told others a
      ((Booting.opening (.registry path link)).resume c reply a) := by
  cases hloaded : Screen.Registry.ofReply path reply with
  | error cause =>
    have hx := Opening.resume_of_error c link hloaded
    refine carried_opened hbeside hhears hbooting hbooted (x := (Opening.registry path link).resume c reply)
      (fun w hv => ?_) (fun result hv => ?_) rfl
    · rw [hx] at hv
      cases hv
    · rw [hx]
      exact ⟨[], Nat.zero_le _, fun _ => rfl, hkept⟩
  | ok registry =>
    have hx := Opening.resume_of_ok c link hloaded
    obtain ⟨moved, sent, hsent, hnone, hvalue, hmoved⟩ := hkept.enter registry link
    refine carried_opened hbeside hhears hbooting hbooted (x := (Opening.registry path link).resume c reply)
      (fun w hv => ?_) (fun result hv => ?_) rfl
    · rw [hx, hvalue] at hv
      rw [hx]
      cases moved with
      | done screen => cases hv
      | waiting f =>
        cases hv
        rw [hnone (Multiset.singleton_ne_zero f)] at hmoved
        exact hmoved
    · rw [hx, hvalue] at hv
      rw [hx]
      cases moved with
      | waiting f => cases hv
      | done screen =>
        cases hv
        rw [Progress.pending_done, zero_add] at hmoved
        exact ⟨_, hsent, fun hne => absurd rfl hne, hmoved⟩

theorem carried_regions (hbeside : Beside first others) {f : Fitting}
    (hkept : Kept answers c first told [] ({f} + others.bind Waiting.fits) (others.bind Waiting.mounts) a)
    (hhears : a.hears = false) (hbooting : a.booting = true) (hbooted : a.booted = false)
    (reply : f.request.Reply) :
    Carried answers c first told others a ((Booting.opening (.regions f)).resume c reply a) := by
  have hsettled := hkept.settle (by decide) reply
  refine carried_opened hbeside hhears hbooting hbooted (x := (Opening.regions f).resume c reply)
    (fun w hv => ?_) (fun result hv => ?_) rfl
  · cases hv
  · cases hv
    exact ⟨_, by simp, fun hne => absurd rfl hne, hsettled⟩

theorem takeTurn_booted (h : a.booted = true) (link : Option String) :
    takeTurn c link a = ⟨a, [], .done (.ok ())⟩ := by
  simp only [takeTurn, Act.bind_get, h]
  rfl

theorem carried_takeTurn (hbeside : Beside first others) (h : Aloft answers c first told queue others a)
    (hbooting : a.booting = false) (link : Option String) :
    Carried answers c first told others a (takeTurn c link a) := by
  have hseated := h.seated
  rw [hbeside.seats] at hseated
  obtain ⟨-, rfl, hsame⟩ := hseated.free_of_booting hbooting
  cases hbooted : a.booted with
  | true =>
    rw [takeTurn_booted hbooted]
    exact carried_done hbeside h.kept hseated rfl rfl _ _ fun _ => hsame.symm.trans hbooted
  | false =>
    have hhears : a.hears = false := hsame.symm.trans hbooted
    have hkept : Kept answers c first told [] (others.bind Waiting.fits) (others.bind Waiting.mounts)
        { a with booting := true } :=
      h.kept.boots a.booted true
    have hstate : (navigating (Navigation.start c link) { a with booting := true }).state =
        { a with booting := true } := by
      simp only [navigating, Act.within_apply, Navigation.start_state]
    have hcarried := carried_opened (c := c) (a := { a with booting := true }) hbeside hhears rfl hbooted
      (x := Navigation.start c link)
      (fun w hv => ?_) (fun result hv => ⟨[], Nat.zero_le _, fun _ => rfl, by rw [hstate]; exact hkept⟩) rfl
    · have hmade : takeTurn c link a = (do
          match ← navigating (Navigation.start c link) with
          | .done result => bootOpened c result
          | .waiting w => return .waiting (.opening w) : Act App _) { a with booting := true } := by
        simp only [takeTurn, Act.bind_get]
        rw [if_neg (by simp [hbooted])]
        rfl
      rw [hmade]
      exact hcarried.after (a := a) rfl id _
    · -- the registry is fetched first of all
      have hv : (Navigation.start c link ⟨a.stage, a.navigation⟩).value = .waiting w := hv
      rw [hstate]
      simp only [Navigation.start, Act.bind_get] at hv
      cases hregistry : a.navigation.registry with
      | some registry =>
        rw [hregistry] at hv
        cases hv
      | none =>
        rw [hregistry] at hv
        cases hv
        show Kept answers c first told [] (0 + others.bind Waiting.fits) _ _
        rw [zero_add]
        exact hkept

theorem boot_eq (c : Settings) (link : Option String) (a : App) :
    boot c link a = if a.booting then ⟨a, [], .waiting (.turn link)⟩ else takeTurn c link a := by
  simp only [boot, Act.bind_get, Act.ite_apply]
  rfl

theorem carried_boot (h : Aloft answers c first told queue others a) (link : Option String) :
    Carried answers c first told others a (boot c link a) := by
  cases hbooting : a.booting with
  | true =>
    have hmade : boot c link a = ⟨a, [], .waiting (.turn link)⟩ := by
      rw [boot_eq, hbooting, if_pos rfl]
    have haloft : Aloft answers c first told queue ({.booting (.turn link)} + others) a :=
      (aloft_light_add (Waiting.light_turn link) trivial).2 h
    rw [hmade]
    exact ⟨(haloft.advanced rfl rfl).aloft, id, fun e he => absurd he (notMem_received rfl e),
      fun h => by cases h⟩
  | false =>
    have hmade : boot c link a = takeTurn c link a := by
      rw [boot_eq, hbooting, if_neg Bool.false_ne_true]
    rw [hmade]
    exact carried_takeTurn ⟨h.regular, (h.seated.free_of_booting hbooting).1⟩ h hbooting link

theorem carried_resume {w : Booting} (h : Aloft answers c first told queue ({.booting w} + others) a)
    (hready : w.request = .turn → a.booting = false) {reply : w.request.Reply}
    (hreply : answers w.request reply) : Carried answers c first told others a (w.resume c reply a) := by
  obtain ⟨hkept, hself, hregular, hseated⟩ := aloft_singleton_add.1 h
  match w, reply with
  | .turn link, () =>
    have h := (aloft_light_add (Waiting.light_turn link) trivial).1 h
    have hbooting := hready rfl
    exact carried_takeTurn ⟨hregular, (h.seated.free_of_booting hbooting).1⟩ h hbooting link
  | .opening (.registry path link), reply =>
    obtain ⟨hrest, hbooting, hbooted, hhears, rfl⟩ := hseated.seat
    simp only [Waiting.fits, Waiting.mounts, zero_add] at hkept
    exact carried_registry ⟨hregular, hrest⟩ hkept hhears hbooting hbooted reply
  | .opening (.regions f), reply =>
    obtain ⟨hrest, hbooting, hbooted, hhears, rfl⟩ := hseated.seat
    simp only [Waiting.fits, Waiting.mounts, zero_add] at hkept
    exact carried_regions ⟨hregular, hrest⟩ hkept hhears hbooting hbooted reply
  | .starting w, reply =>
    obtain ⟨hrest, hbooting, hbooted, hhears, hqueue⟩ := hseated.seat
    simp only [Waiting.fits, Waiting.mounts, zero_add] at hkept
    obtain ⟨hposition, hpath⟩ := hself
    obtain ⟨status, hroster⟩ := hkept.crew
    rw [hhears] at hroster
    obtain ⟨status', failed, notices, -, hstarted⟩ := resumeStartAll_eq (c := c) hroster hposition reply
    have hkept' := hkept.started (hkept.tells.sourced.catalog.preloaded hpath hreply) status'
    have hcarried := carried_bootStarted ⟨hregular, hrest⟩ hkept' hqueue (hears_of_crewOf rfl) hbooting
      hbooted failed
    simp only [Booting.resume, Act.bind_apply, hstarted]
    exact hcarried.after (a := a) rfl (fun _ => hears_of_crewOf rfl) _
  | .pumping w, reply =>
    obtain ⟨hrest, hbooting, hbooted, hhears, rfl⟩ := hseated.seat
    simp only [Waiting.fits, Waiting.mounts, zero_add] at hkept
    refine carried_pumped ⟨hregular, hrest⟩ (pumped_resumePump hkept hself hreply) hhears hbooting hbooted
      (fun hv => ?_) fun w hv => ?_
    all_goals simp [Booting.resume, Act.bind_apply, hv, ready_apply]

end Gamebook.App
