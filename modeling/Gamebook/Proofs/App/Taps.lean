import Gamebook.Proofs.App.Announcements
import Gamebook.Proofs.App.Choices
import Gamebook.Proofs.Concluding
import Gamebook.Proofs.Session.Calls
import Gamebook.Proofs.Stage.Pointing

/-! Taps. A tap is for the slots of the panel that is shown, and beside them for the last listed region of the
active screen: a slot leads to what its choice leads to, and a region that asks to go somewhere is gone to just as
if that had been asked for (`ensures_tap_of_goal`). A tap that comes to nothing leaves the player as it was, and
asks for nothing. -/
namespace Gamebook.App

open Act

variable {c : Settings} {a b : App} {p : Stage.Point} {asked : List Progress.Replied} {answer : Answer}

variable (c) in
/-- A call that no other call comes in between of, with all that it asked and was replied. -/
abbrev Completes (call : Call) (a : App) (asked : List Progress.Replied) (b : App) (answer : Answer) : Prop :=
  Progress.Completes Waiting.request (resume c) (begin c call a).value (begin c call a).state asked b answer

variable (c) in
/-- Such a call has its answer in the end, whatever is replied, and then this holds. -/
abbrev Ensures (call : Call) (a : App) (post : List Progress.Replied → App → Answer → Prop) : Prop :=
  Progress.Ensures Waiting.request (resume c) post (begin c call a).value (begin c call a).state

theorem ensures_of_due {first : Catalog} {n : Nat} {p : Progress Waiting Answer} {told : Multiset Taken}
    {queue : List ScreenChange} (haloft : Aloft (fun _ _ => True) c first told queue p.pending a)
    (hp : Session.Due answer n p) :
    Progress.Ensures Waiting.request (resume c) (fun asked b x => x = answer ∧
      Progress.Completes Waiting.request (resume c) p a asked b x) p a := by
  induction n generalizing p a told queue with
  | zero =>
    cases hp with
    | done => exact .done ⟨rfl, .done ..⟩
    | waiting _ _ hn => exact absurd hn (Nat.not_lt_zero _)
  | succ n ih =>
    cases hp with
    | done => exact .done ⟨rfl, .done ..⟩
    | @waiting w hbound houtcome hn =>
      refine .waiting fun reply => ?_
      have hready := Session.ready_of_alone haloft
      rw [Progress.pending_waiting, ← add_zero ({w} : Multiset Waiting)] at haloft
      have hdue := Session.due_of_nearer (nearer_resume haloft hbound reply) (Nat.le_of_lt_succ hn)
      obtain ⟨queue', hnext⟩ := (advanced_resume haloft hready trivial).aloft
      rw [add_zero] at hnext
      rw [houtcome] at hdue
      exact (ih hnext hdue).mono fun asked b x h => ⟨h.1, .waiting reply h.2⟩

structure Carries (a : App) (m : Mounted) : Prop where
  mounted : a.storybook.mounted = some m
  active : a.stage.active = some m.screen
  panel : ∃ panel, a.stage.panel? m.screen = some panel ∧ panel.story = m.story

/-- A point lies in a slot of the panel that the active screen carries. -/
def OnSlot (a : App) (p : Stage.Point) : Prop :=
  (∃ m, a.Carries m) ∧ ∃ r ∈ Stage.slotRects, r.contains p = true

def movedOn (c : Settings) (m : Mounted) (target : NodeId) (a : App) : App :=
  { a with
    stage := a.stage.mount m.screen (Storybook.panel c.story m target 0)
    storybook := { a.storybook with places := a.storybook.places.put m.story target } }

theorem Carries.of_panel (h : Shown c.story a.stories) {m : Mounted} {panel : Stage.Panel}
    (hm : a.storybook.mounted = some m) (hactive : a.stage.active = some m.screen)
    (hpanel : a.stage.panel? m.screen = some panel) : a.Carries m := by
  obtain ⟨m', hm', -, htells⟩ := h.tells hpanel
  obtain rfl := Option.some.inj (hm.symm.trans hm')
  exact ⟨hm, hactive, panel, hpanel, htells.story⟩

theorem Carries.slotAt?_eq (h : Shown c.story a.stories) {m : Mounted} (hm : a.Carries m) :
    (∀ i, Storybook.slotAt? a.stories p = some i ↔ Stage.FirstSlot p i) ∧
      ((Storybook.slotAt? a.stories p).isSome = true ↔ ∃ r ∈ Stage.slotRects, r.contains p = true) := by
  obtain ⟨panel, hpanel, -⟩ := hm.panel
  obtain ⟨m', -, -, htells⟩ := h.tells hpanel
  have hslot : Storybook.slotAt? a.stories p = panel.slotAt? p := by
    have hmounted : a.stories.part.mounted = some m := hm.mounted
    have hactive : a.stories.stage.active = some m.screen := hm.active
    have hpanel : a.stories.stage.panel? m.screen = some panel := hpanel
    simp [Storybook.slotAt?, hmounted, hactive, hpanel]
  rw [hslot]
  exact ⟨fun i => Stage.Panel.slotAt?_eq_some_iff htells.slots, Stage.Panel.slotAt?_isSome_iff htells.slots⟩

theorem slotAt?_isSome_iff (h : Shown c.story a.stories) :
    (Storybook.slotAt? a.stories p).isSome = true ↔ a.OnSlot p := by
  constructor
  · intro hsome
    obtain ⟨i, hi⟩ := Option.isSome_iff_exists.1 hsome
    simp only [Storybook.slotAt?, Option.bind_eq_bind, Option.bind_eq_some_iff] at hi
    obtain ⟨m, hm, hi⟩ := hi
    split at hi
    · rename_i hactive
      obtain ⟨panel, hpanel, -⟩ := Option.bind_eq_some_iff.1 hi
      have hcarries : a.Carries m := .of_panel h hm hactive hpanel
      exact ⟨⟨m, hcarries⟩, (hcarries.slotAt?_eq h).2.1 hsome⟩
    · cases hi
  · rintro ⟨⟨m, hm⟩, hrect⟩
    exact (hm.slotAt?_eq h).2.2 hrect

section Slots

variable {i : Nat} (hslot : Storybook.slotAt? a.stories p = some i)

include hslot

theorem begin_tap_of_slot :
    begin c (.tap p) a = (do
      return (← reading (Storybook.choose c.story i)).map (fun w => Waiting.tapping (.choosing w))
        fun node => Answer.tapped (.slot node) : Act App (Progress Waiting Answer)) a := by
  have hslot : Storybook.slotAt? ⟨a.stage, a.storybook⟩ p = some i := hslot
  have hselect : reading (Storybook.selectAt c.story p) a = reading (Storybook.choose c.story i) a := by
    simp only [reading, within_apply, Storybook.selectAt, bind_get, hslot]
  simp only [begin, tap, bind_apply, get_apply, hslot, hselect, pure_apply, Progress.map_map, List.nil_append,
    List.append_nil]

theorem begin_tap_of_none (h : Storybook.chosen? a.stories i = none) :
    begin c (.tap p) a = ⟨a, [], .done (.tapped (.slot none))⟩ := by
  have hchoose : Storybook.choose c.story i ⟨a.stage, a.storybook⟩ = _ := Storybook.choose_of_none h
  rw [begin_tap_of_slot hslot]
  simp only [reading, bind_apply, within_apply, pure_apply, hchoose]
  rfl

theorem begin_tap_of_some {m : Mounted} {target : NodeId} (h : Storybook.chosen? a.stories i = some (m, target)) :
    begin c (.tap p) a =
      ⟨{ a with
          stage := Storybook.display c.story m target a.stage
          storybook := { a.storybook with places := a.storybook.places.put m.story target } }, [],
        .waiting (.tapping (.choosing ⟨⟨m.story, m.screen, a.stage.generation⟩, target⟩))⟩ := by
  have hchoose : Storybook.choose c.story i ⟨a.stage, a.storybook⟩ = _ := Storybook.choose_of_some h
  rw [begin_tap_of_slot hslot]
  simp only [reading, bind_apply, within_apply, pure_apply, hchoose]
  rfl

theorem ensures_tap_of_slot {m : Mounted} (hm : a.storybook.mounted = some m) :
    Ensures c (.tap p) a fun asked b answer =>
      match Storybook.target? a.stories m i with
      | some target => answer = .tapped (.slot (some target)) ∧ b = movedOn c m target a ∧
          asked.map Sigma.fst = [.savePlace m.story target]
      | none => answer = .tapped (.slot none) ∧ b = a ∧ asked = [] := by
  have hchosen : Storybook.chosen? a.stories i = (Storybook.target? a.stories m i).map fun target => (m, target) := by
    have hm : a.stories.part.mounted = some m := hm
    simp only [Storybook.chosen?, hm, Option.bind_some]
  unfold Ensures
  cases htarget : Storybook.target? a.stories m i with
  | none =>
    rw [htarget] at hchosen
    rw [begin_tap_of_none hslot hchosen]
    exact .done ⟨rfl, rfl, rfl⟩
  | some target =>
    rw [htarget] at hchosen
    rw [begin_tap_of_some hslot hchosen]
    refine .waiting fun reply => ?_
    -- nobody came in between, so that the reader is still there when the place is saved
    have hcurrent : (Storybook.display c.story m target a.stage).isCurrent a.stage.generation m.screen = true :=
      (Stage.isCurrent_iff ..).2 ⟨rfl, (Storybook.target?_eq_some htarget).1⟩
    have hscroll : ((Storybook.display c.story m target a.stage).scroll m.screen 0).1 =
        a.stage.mount m.screen (Storybook.panel c.story m target 0) := Stage.scroll_mount ..
    have hvalue : ∀ (w : Saving) (reply : w.request.Reply) (s : Staged Storybook),
        (w.resume reply s).value = some w.target := fun w reply s => by cases reply <;> rfl
    simp only [resume, Tapping.resume, bind_apply, pure_apply, Progress.map, reading, within_apply,
      Saving.resume_state, if_pos hcurrent, hscroll, hvalue]
    exact .done ⟨rfl, rfl, rfl⟩

end Slots

theorem aim?_eq {stage : Stage} {r : Stage.Region} (h : stage.regionAt? p = some r) :
    Navigation.aim? stage .up p = if r.verb = Navigation.goVerb then r.object? else none := by
  have htarget : Navigation.target? stage .up p = some r := h
  simp only [Navigation.aim?, htarget, Option.bind_eq_bind, Option.bind_some]

theorem object?_eq (r : Stage.Region) : r.object? = (r.arg.map Text.trim).filter (· ≠ "") := by
  cases harg : r.arg with
  | none => rw [Stage.Region.object?, harg, Option.bind_none, Option.map_none, Option.filter_none]
  | some arg =>
    rw [Stage.Region.object?, harg, Option.bind_some, Option.map_some, Text.trimmed?]
    by_cases hblank : Text.blank arg = true
    · simp [hblank, Option.filter, (Text.trim_eq_empty_iff arg).2 hblank]
    · have hsome : Text.trim arg ≠ "" := mt (Text.trim_eq_empty_iff arg).1 hblank
      simp [hblank, Option.filter, hsome]

/-- How a tap on a region that is gone to stands beside a call that asks to go there. -/
inductive GoesAs : Progress Waiting Answer → Progress Waiting Answer → Prop
  | done (screen : Option ScreenId) :
      GoesAs (.done (.screen screen)) (.done (.tapped (.pointer (.navigated screen))))
  | following (w : Fitting) :
      GoesAs (.waiting (.going (.following w))) (.waiting (.tapping (.dispatching w)))
  | pumping (screen : Option ScreenId) (w : Telling) :
      GoesAs (.waiting (.going (.pumping screen w))) (.waiting (.tapping (.pumping (.navigated screen) w)))

theorem GoesAs.on (screen : Option ScreenId) (p : Progress Telling Unit) :
    GoesAs (goingOn screen p) (tappingOn (.navigated screen) p) := by
  cases p with
  | done => exact .done screen
  | waiting w => exact .pumping screen w

/-- Both go on with the same steps. -/
theorem GoesAs.resume {w : Waiting} {q : Progress Waiting Answer} (h : GoesAs (.waiting w) q) :
    ∃ w', q = .waiting w' ∧ ∀ (reply' : w'.request.Reply) (a : App), ∃ reply : w.request.Reply,
      (⟨w'.request, reply'⟩ : Progress.Replied) = ⟨w.request, reply⟩ ∧
        (App.resume c w' reply' a).state = (App.resume c w reply a).state ∧
        GoesAs (App.resume c w reply a).value (App.resume c w' reply' a).value := by
  cases h with
  | following w =>
    refine ⟨_, rfl, fun reply a => ⟨reply, rfl, ?_⟩⟩
    rw [resume_eq_leadOn (w := .tapping (.dispatching w)) trivial,
      resume_eq_leadOn (w := .going (.following w)) trivial]
    simp only [leadOn, thenDrain, bind_apply, pure_apply]
    exact ⟨trivial, .on _ _⟩
  | pumping screen w =>
    refine ⟨_, rfl, fun reply a => ⟨reply, rfl, ?_⟩⟩
    have htap : App.resume c (.tapping (.pumping (.navigated screen) w)) reply = _ :=
      (resume_eq_leadOn (w := .tapping (.pumping (.navigated screen) w)) trivial reply).trans resumePump_bind.symm
    have hgo : App.resume c (.going (.pumping screen w)) reply = _ :=
      (resume_eq_leadOn (w := .going (.pumping screen w)) trivial reply).trans resumePump_bind.symm
    rw [htap, hgo]
    exact ⟨rfl, .on _ _⟩

theorem begin_tap_of_aim {raw : String} (hslot : Storybook.slotAt? a.stories p = none)
    (haim : Navigation.aim? a.stage .up p = some raw) :
    (begin c (.tap p) a).state = (begin c (.go raw) a).state ∧
      GoesAs (begin c (.go raw) a).value (begin c (.tap p) a).value := by
  have hasks : asks? a (.tap p) = some raw := by
    have hslot : Storybook.slotAt? ⟨a.stage, a.storybook⟩ p = none := hslot
    simp only [asks?, hslot, haim]
  obtain ⟨notices, htap⟩ := lead_tap_eq (c := c) hasks
  obtain ⟨notices', hgo⟩ := lead_go_eq (c := c) raw a
  rw [begin_eq (show (Call.tap p).Roams from trivial), begin_eq (show (Call.go raw).Roams from trivial)]
  simp only [bind_apply, htap, hgo]
  cases (navigating (Navigation.follow c.navigation raw) a).value with
  | waiting w => exact ⟨rfl, .following w⟩
  | done screen =>
    simp only [thenDrain, bind_apply, pure_apply]
    exact ⟨trivial, .on _ _⟩

theorem begin_tap_of_no_aim {outcome : PointerOutcome} {notices : List Notice}
    (hdrained : a.navigation.transitions.Holds a.taken []) (hslot : Storybook.slotAt? a.stories p = none)
    (hdispatch : Navigation.dispatch c.navigation .up p ⟨a.stage, a.navigation⟩ =
      ⟨⟨a.stage, a.navigation⟩, notices, .done outcome⟩) :
    begin c (.tap p) a = ⟨a, notices, .done (.tapped (.pointer outcome))⟩ := by
  have hslot : Storybook.slotAt? ⟨a.stage, a.storybook⟩ p = none := hslot
  simp only [begin, tap, bind_apply, get_apply, hslot, navigating, within_apply, hdispatch, thenPumpTap,
    pump_nil hdrained, pure_apply, Progress.map, List.nil_append, List.append_nil]

theorem ensures_tap_of_no_aim {r : Stage.Region} (hdrained : a.navigation.transitions.Holds a.taken [])
    (hslot : Storybook.slotAt? a.stories p = none) (hregion : a.stage.regionAt? p = some r)
    (haim : Navigation.aim? a.stage .up p = none) :
    Ensures c (.tap p) a fun asked b answer =>
      answer = .tapped (.pointer (.unhandled r.verb r.object?)) ∧ b = a ∧ asked = [] := by
  have htarget : Navigation.target? a.stage .up p = some r := hregion
  rw [aim?_eq hregion] at haim
  have hdispatch : Navigation.dispatch c.navigation .up p ⟨a.stage, a.navigation⟩ =
      ⟨⟨a.stage, a.navigation⟩, [.unhandledAction r.verb r.object?], .done (.unhandled r.verb r.object?)⟩ := by
    simp only [Navigation.dispatch, bind_get, htarget, Navigation.perform, haim]
    rfl
  unfold Ensures
  rw [begin_tap_of_no_aim hdrained hslot hdispatch]
  exact .done ⟨rfl, rfl, rfl⟩

theorem ensures_tap_of_nothing (hdrained : a.navigation.transitions.Holds a.taken [])
    (hslot : Storybook.slotAt? a.stories p = none) (hregion : a.stage.regionAt? p = none) :
    Ensures c (.tap p) a fun asked b answer => answer = .tapped (.pointer .ignored) ∧ b = a ∧ asked = [] := by
  have htarget : Navigation.target? a.stage .up p = none := hregion
  have hdispatch : Navigation.dispatch c.navigation .up p ⟨a.stage, a.navigation⟩ =
      ⟨⟨a.stage, a.navigation⟩, [], .done .ignored⟩ := by
    simp only [Navigation.dispatch, bind_get, htarget]
    rfl
  unfold Ensures
  rw [begin_tap_of_no_aim hdrained hslot hdispatch]
  exact .done ⟨rfl, rfl, rfl⟩

/-- A navigation of a player of which no call is under way goes where it is granted to, or does nothing. -/
theorem ensures_go {first : Catalog} {told : Multiset Taken}
    (haloft : Aloft (fun _ _ => True) c first told [] 0 a) (raw : String) :
    Ensures c (.go raw) a fun asked b answer => answer = .screen (granted? c a raw) ∧
      Completes c (.go raw) a asked b answer ∧ (granted? c a raw = none → b = a ∧ asked = []) := by
  cases hgranted : granted? c a raw with
  | none =>
    have hfollowed := followed_follow (c := c) raw a
    rw [hgranted] at hfollowed
    have hbegin : ∃ notices, begin c (.go raw) a = ⟨a, notices, .done (.screen none)⟩ := by
      simp only [begin, go, bind_apply]
      generalize navigating (Navigation.follow c.navigation raw) a = made at hfollowed ⊢
      cases hfollowed with
      | refused =>
        simp only [thenPump, bind_apply, pump_nil haloft.kept.channel, pure_apply, Progress.map]
        exact ⟨_, rfl⟩
    obtain ⟨notices, hbegin⟩ := hbegin
    simp only [Ensures, Completes, hbegin]
    exact .done ⟨rfl, .done .., fun _ => ⟨rfl, rfl⟩⟩
  | some screen =>
    obtain ⟨registry, hregistry, hresolve⟩ := Option.bind_eq_some_iff.1 hgranted
    have hresolve : a.navigation.memory.resolve (Screen.Route.ofText c.navigation.aliases raw) registry =
        .ok screen := by
      generalize a.navigation.memory.resolve (Screen.Route.ofText c.navigation.aliases raw) registry = e
        at hresolve
      cases e with
      | error => cases hresolve
      | ok => exact congrArg _ (Option.some.inj hresolve)
    have hplays : (Call.go raw).Plays := trivial
    obtain ⟨queue, hbegun⟩ := (advanced_begin hplays haloft).aloft
    rw [add_zero] at hbegun
    exact (ensures_of_due hbegun (Session.due_begin_go hregistry hresolve (Nat.le_refl 4))).mono
      fun asked b x h => ⟨h.1, h.2, fun hnone => by cases hnone⟩

/-- A tap on a region that asks to go somewhere does what that navigation does. -/
theorem ensures_tap_of_goal {first : Catalog} {told : Multiset Taken} {raw : String}
    (haloft : Aloft (fun _ _ => True) c first told [] 0 a) (hslot : Storybook.slotAt? a.stories p = none)
    (haim : Navigation.aim? a.stage .up p = some raw) :
    Ensures c (.tap p) a fun asked b answer =>
      answer = .tapped (.pointer (.navigated (granted? c a raw))) ∧
      Completes c (.go raw) a asked b (.screen (granted? c a raw)) ∧
      (granted? c a raw = none → b = a ∧ asked = []) := by
  obtain ⟨hstate, hvalue⟩ := begin_tap_of_aim (c := c) hslot haim
  have halike := Progress.Ensures.alike (q := (begin c (.tap p) a).value) (R := GoesAs)
    (fun h => by cases h; exact ⟨_, rfl⟩) GoesAs.resume (ensures_go (c := c) haloft raw) hvalue
  unfold Ensures
  rw [hstate]
  refine halike.mono fun asked b y => ?_
  rintro ⟨x, hx, rfl, hcompletes, hrefused⟩
  cases hx
  exact ⟨rfl, hcompletes, hrefused⟩

/-- A tap that came to nothing: on a slot without a choice, beside all regions, or on a region that asks for what
is not known or is refused. -/
def TapOutcome.Idle : TapOutcome → Prop
  | .slot node => node = none
  | .pointer .ignored => True
  | .pointer (.unhandled _ _) => True
  | .pointer (.navigated screen) => screen = none

variable (c) in
/-- What comes of an action with its argument: one that asks to go somewhere does what that navigation does, and
any other does nothing. -/
structure Performed (a : App) (verb : String) (object : Option String) (asked : List Progress.Replied) (b : App)
    (outcome : PointerOutcome) : Prop where
  gone : ∀ raw, verb = "go" → object = some raw → outcome = .navigated (granted? c a raw) ∧
    Completes c (.go raw) a asked b (.screen (granted? c a raw))
  unhandled : (verb = "go" → object = none) → outcome = .unhandled verb object

variable (c) in
/-- Where a tap on a player goes, and all that comes of it. -/
structure TapRouted (a : App) (p : Stage.Point) (asked : List Progress.Replied) (b : App)
    (outcome : TapOutcome) : Prop where
  slot_iff : (∃ node, outcome = .slot node) ↔ a.OnSlot p
  chosen : ∀ m i, a.Carries m → Stage.FirstSlot p i → ∀ target, Storybook.target? a.stories m i = some target →
    outcome = .slot (some target) ∧ b = movedOn c m target a ∧
      asked.map Sigma.fst = [.savePlace m.story target]
  closed : ∀ m i, a.Carries m → Stage.FirstSlot p i → Storybook.target? a.stories m i = none →
    outcome = .slot none
  performed : ¬ a.OnSlot p → ∀ r, a.stage.LastAt p r →
    ∃ o, outcome = .pointer o ∧ Performed c a (Text.lower (Text.trim (r.action.getD "")))
      ((r.arg.map Text.trim).filter (· ≠ "")) asked b o
  ignored : ¬ a.OnSlot p → a.stage.NoneAt p → outcome = .pointer .ignored
  idle : outcome.Idle → b = a ∧ asked = []

theorem TapRouted.of_slot {m : Mounted} {i : Nat} {outcome : TapOutcome} (h : Shown c.story a.stories)
    (hm : a.Carries m) (hi : Stage.FirstSlot p i)
    (hchosen : ∀ target, Storybook.target? a.stories m i = some target → outcome = .slot (some target) ∧
      b = movedOn c m target a ∧ asked.map Sigma.fst = [.savePlace m.story target])
    (hclosed : Storybook.target? a.stories m i = none → outcome = .slot none ∧ b = a ∧ asked = []) :
    TapRouted c a p asked b outcome := by
  have hslot := ((hm.slotAt?_eq h).1 i).2 hi
  have hon : a.OnSlot p := (slotAt?_isSome_iff h).1 (Option.isSome_iff_exists.2 ⟨i, hslot⟩)
  have honly : ∀ m' i', a.Carries m' → Stage.FirstSlot p i' → m' = m ∧ i' = i := by
    intro m' i' hm' hi'
    refine ⟨Option.some.inj (hm'.mounted.symm.trans hm.mounted), ?_⟩
    exact Option.some.inj ((((hm.slotAt?_eq h).1 i').2 hi').symm.trans hslot)
  refine
    { slot_iff := ⟨fun _ => hon, fun _ => ?_⟩
      chosen := fun m' i' hm' hi' => ?_
      closed := fun m' i' hm' hi' => ?_
      performed := fun hnot => absurd hon hnot
      ignored := fun hnot => absurd hon hnot
      idle := fun hidle => ?_ }
  · cases htarget : Storybook.target? a.stories m i with
    | some target => exact ⟨_, (hchosen target htarget).1⟩
    | none => exact ⟨_, (hclosed htarget).1⟩
  · obtain ⟨rfl, rfl⟩ := honly m' i' hm' hi'
    exact hchosen
  · obtain ⟨rfl, rfl⟩ := honly m' i' hm' hi'
    exact fun htarget => (hclosed htarget).1
  · cases htarget : Storybook.target? a.stories m i with
    | some target =>
      rw [(hchosen target htarget).1] at hidle
      cases hidle
    | none => exact (hclosed htarget).2

theorem TapRouted.of_pointer {outcome : PointerOutcome} (h : Shown c.story a.stories)
    (hslot : Storybook.slotAt? a.stories p = none)
    (hgone : ∀ raw, Navigation.aim? a.stage .up p = some raw → outcome = .navigated (granted? c a raw) ∧
      Completes c (.go raw) a asked b (.screen (granted? c a raw)))
    (hunhandled : ∀ r, a.stage.regionAt? p = some r → Navigation.aim? a.stage .up p = none →
      outcome = .unhandled r.verb r.object?)
    (hignored : a.stage.regionAt? p = none → outcome = .ignored)
    (hidle : (TapOutcome.pointer outcome).Idle → b = a ∧ asked = []) :
    TapRouted c a p asked b (.pointer outcome) := by
  have hnot : ¬ a.OnSlot p := fun hon => by
    have hsome := (slotAt?_isSome_iff h).2 hon
    rw [hslot] at hsome
    cases hsome
  have hslots : ∀ m i, a.Carries m → ¬ Stage.FirstSlot p i := fun m i hm hi => by
    have hi := ((hm.slotAt?_eq h).1 i).2 hi
    rw [hslot] at hi
    cases hi
  refine
    { slot_iff := ⟨fun ⟨_, h⟩ => (nomatch h), fun hon => absurd hon hnot⟩
      chosen := fun m i hm hi => absurd hi (hslots m i hm)
      closed := fun m i hm hi => absurd hi (hslots m i hm)
      performed := fun _ r hr => ⟨_, rfl, fun raw hverb hobject => ?_, fun hgoal => ?_⟩
      ignored := fun _ hnone => congrArg _ (hignored (Stage.regionAt?_eq_none_iff.2 hnone))
      idle := hidle }
  · have hgo : r.verb = Navigation.goVerb := hverb
    rw [← object?_eq] at hobject
    have haim := aim?_eq (Stage.regionAt?_eq_some_iff.2 hr)
    rw [if_pos hgo, hobject] at haim
    exact hgone raw haim
  · have hregion := Stage.regionAt?_eq_some_iff.2 hr
    rw [← object?_eq] at hgoal ⊢
    refine hunhandled r hregion ?_
    rw [aim?_eq hregion]
    split
    · rename_i hverb
      exact hgoal hverb
    · rfl

theorem tapRouted_of_aloft {first : Catalog} {told : Multiset Taken}
    (haloft : Aloft (fun _ _ => True) c first told [] 0 a) (p : Stage.Point) :
    Ensures c (.tap p) a fun asked b answer => ∃ outcome, answer = .tapped outcome ∧
      TapRouted c a p asked b outcome := by
  have hshown := haloft.kept.tells.shown
  have hdrained := haloft.kept.channel
  cases hslot : Storybook.slotAt? a.stories p with
  | some i =>
    obtain ⟨m, hm⟩ := ((slotAt?_isSome_iff hshown).1 (Option.isSome_iff_exists.2 ⟨i, hslot⟩)).1
    have hi := ((hm.slotAt?_eq hshown).1 i).1 hslot
    refine (ensures_tap_of_slot hslot hm.mounted).mono fun asked b answer h => ?_
    cases htarget : Storybook.target? a.stories m i with
    | some target =>
      simp only [htarget] at h
      refine ⟨_, h.1, .of_slot hshown hm hi (fun target' h' => ?_) fun h' => ?_⟩
      · obtain rfl := Option.some.inj (htarget.symm.trans h')
        exact ⟨rfl, h.2⟩
      · rw [htarget] at h'
        cases h'
    | none =>
      simp only [htarget] at h
      refine ⟨_, h.1, .of_slot hshown hm hi (fun target' h' => ?_) fun _ => ⟨rfl, h.2⟩⟩
      rw [htarget] at h'
      cases h'
  | none =>
    cases haim : Navigation.aim? a.stage .up p with
    | some raw =>
      refine (ensures_tap_of_goal haloft hslot haim).mono fun asked b answer h => ?_
      refine ⟨_, h.1, .of_pointer hshown hslot (fun raw' h' => ?_) (fun r _ h' => ?_) (fun h' => ?_) h.2.2⟩
      · obtain rfl := Option.some.inj (haim.symm.trans h')
        exact ⟨rfl, h.2.1⟩
      · rw [haim] at h'
        cases h'
      · have htarget : Navigation.target? a.stage .up p = none := h'
        rw [Navigation.aim?, htarget] at haim
        cases haim
    | none =>
      cases hregion : a.stage.regionAt? p with
      | none =>
        refine (ensures_tap_of_nothing hdrained hslot hregion).mono fun asked b answer h => ?_
        refine ⟨_, h.1, .of_pointer hshown hslot (fun raw h' => ?_) (fun r h' => ?_) (fun _ => rfl) fun _ => h.2⟩
        · rw [haim] at h'
          cases h'
        · rw [hregion] at h'
          cases h'
      | some r =>
        refine (ensures_tap_of_no_aim hdrained hslot hregion haim).mono fun asked b answer h => ?_
        refine ⟨_, h.1, .of_pointer hshown hslot (fun raw h' => ?_) (fun r' h' _ => ?_) (fun h' => ?_) fun _ => h.2⟩
        · rw [haim] at h'
          cases h'
        · obtain rfl := Option.some.inj (hregion.symm.trans h')
          rfl
        · rw [hregion] at h'
          cases h'

theorem carries_of_target {first : Catalog} {log : List (App × App)} {f : (protocol c).Flight}
    (hrun : (protocol c).Run Call.Plays (fun _ _ => True) ⟨ofCatalog first, []⟩ log f) {m : Mounted} {i : Nat}
    {target : NodeId} (hm : f.state.storybook.mounted = some m)
    (htarget : Storybook.target? f.state.stories m i = some target) : f.state.Carries m := by
  obtain ⟨hactive, -, panel, hpanel, -⟩ := Storybook.target?_eq_some htarget
  obtain ⟨⟨queue, haloft⟩, -⟩ := aloft_of_run hrun
  exact .of_panel haloft.kept.tells.shown hm hactive hpanel

/-- When no call is under way, a tap is routed. -/
theorem tap_is_routed {first : Catalog} {log : List (App × App)} {f : (protocol c).Flight}
    (hrun : (protocol c).Run Call.Plays (fun _ _ => True) ⟨ofCatalog first, []⟩ log f) (hquiet : f.Quiet)
    (p : Stage.Point) :
    Ensures c (.tap p) f.state fun asked b answer => ∃ outcome, answer = .tapped outcome ∧
      TapRouted c f.state p asked b outcome := by
  obtain ⟨⟨queue, haloft⟩, -⟩ := aloft_of_run hrun
  rw [hquiet.pending_eq_zero] at haloft
  obtain ⟨-, rfl, -⟩ := haloft.seated.free_of_booting (haloft.seated.booting_eq_false rfl)
  exact tapRouted_of_aloft haloft p

def hitbox (id : String) (x y w h : Nat) (action arg : String) : Json.Value :=
  .object [("id", .string id), ("x", .number (.natural x)), ("y", .number (.natural y)),
    ("w", .number (.natural w)), ("h", .number (.natural h)), ("action", .string action), ("arg", .string arg)]

/-- A hall with a stair up, a door in the middle of the stair, and a bell; and a story on a screen that is one
door. -/
def hallDocs (path : String) : Except SourceFault Json.Value :=
  if path = "sec/screen_registry.json" then
    .ok (.object [("start_screen", .string "hall"), ("screens", .object [
      ("hall", .object [("hitboxes", .string "h.json")]), ("attic", .object []), ("yard", .object []),
      ("story_a", .object [("hitboxes", .string "s.json")])])])
  else if path = "h.json" then
    .ok (.object [("hitboxes", .array [hitbox "up" 0 0 40 40 " Go " " attic ", hitbox "out" 10 10 20 20 "go" "yard",
      hitbox "bell" 60 60 10 10 "ring" "bell"])])
  else if path = "s.json" then
    .ok (.object [("hitboxes", .array [hitbox "back" 0 0 100 100 "go" "hall"])])
  else taleDocs path

def atTheStair : (protocol {}).Flight :=
  Protocol.Flight.play (P := protocol {}) (sourceOf hallDocs) ⟨ofCatalog taleCatalog, []⟩
    [.begin (.boot none), .resume 0, .resume 0]

def atTheTale : (protocol {}).Flight :=
  Protocol.Flight.play (P := protocol {}) (sourceOf hallDocs) atTheStair
    [.begin (.go "story_a"), .resume 1, .resume 1, .resume 1]

theorem run_atTheStair : ∃ log,
    (protocol {}).Run Call.Plays (fun _ _ => True) ⟨ofCatalog taleCatalog, []⟩ log atTheStair :=
  Protocol.exists_run_play (fun _ => trivial) (by simp [Call.Plays]) .start

theorem run_atTheTale : ∃ log,
    (protocol {}).Run Call.Plays (fun _ _ => True) ⟨ofCatalog taleCatalog, []⟩ log atTheTale := by
  obtain ⟨log, h⟩ := run_atTheStair
  exact Protocol.exists_run_play (fun _ => trivial) (by simp [Call.Plays]) h

theorem quiet_atTheStair : atTheStair.Quiet := by
  unfold Protocol.Flight.Quiet
  decide +kernel

theorem quiet_atTheTale : atTheTale.Quiet := by
  unfold Protocol.Flight.Quiet
  decide +kernel

/-- Where the tale is told the first slot lies on the door. In the hall the stair can be met beside the door. -/
theorem tap_is_routed_at_the_tale_and_on_the_stair :
    ((∃ log, (protocol {}).Run Call.Plays (fun _ _ => True) ⟨ofCatalog taleCatalog, []⟩ log atTheTale) ∧
      atTheTale.Quiet ∧ (∃ r, atTheTale.state.stage.LastAt ⟨20, 72⟩ r ∧ r.arg = some "hall") ∧
      Ensures {} (.tap ⟨20, 72⟩) atTheTale.state fun asked b answer =>
        answer = .tapped (.slot (some ⟨"S2"⟩)) ∧ asked.map Sigma.fst = [.savePlace ⟨"a"⟩ ⟨"S2"⟩] ∧
          b.navigation = atTheTale.state.navigation) ∧
    (∃ log, (protocol {}).Run Call.Plays (fun _ _ => True) ⟨ofCatalog taleCatalog, []⟩ log atTheStair) ∧
    atTheStair.Quiet ∧
    (∃ r, atTheStair.state.stage.LastAt ⟨5, 5⟩ r ∧ r.action = some " Go " ∧ r.arg = some " attic ") ∧
    Ensures {} (.tap ⟨5, 5⟩) atTheStair.state fun asked b answer =>
      answer = .tapped (.pointer (.navigated (some ⟨"attic"⟩))) ∧
        Completes {} (.go "attic") atTheStair.state asked b (.screen (some ⟨"attic"⟩)) := by
  constructor
  · have hdoor : (atTheTale.state.stage.regionAt? ⟨20, 72⟩).map (·.arg) = some (some "hall") := by decide +kernel
    have hchosen : (Storybook.chosen? atTheTale.state.stories 0).map (fun x => (x.1.story, x.2)) =
        some (⟨"a"⟩, ⟨"S2"⟩) := by decide +kernel
    have hslot : Stage.FirstSlot ⟨20, 72⟩ 0 :=
      ⟨⟨_, rfl, by decide +kernel⟩, fun j _ hj => absurd hj (Nat.not_lt_zero j)⟩
    obtain ⟨log, hrun⟩ := run_atTheTale
    have hquiet := quiet_atTheTale
    -- nothing else is used of the flight, which is not to be computed again
    generalize atTheTale = f at *
    obtain ⟨r, hr, harg⟩ := Option.map_eq_some_iff.1 hdoor
    obtain ⟨⟨m, target⟩, hchosen, hboth⟩ := Option.map_eq_some_iff.1 hchosen
    obtain ⟨hstory, rfl⟩ := Prod.mk.inj hboth
    obtain ⟨hm, htarget⟩ := Storybook.chosen?_eq_some hchosen
    have hcarries := carries_of_target hrun hm htarget
    refine ⟨⟨log, hrun⟩, hquiet, ⟨r, Stage.regionAt?_eq_some_iff.1 hr, harg⟩, ?_⟩
    refine (tap_is_routed hrun hquiet ⟨20, 72⟩).mono fun asked b answer => ?_
    rintro ⟨outcome, rfl, hrouted⟩
    obtain ⟨rfl, rfl, hasked⟩ := hrouted.chosen m 0 hcarries hslot _ htarget
    have hstory : m.story = ⟨"a"⟩ := hstory
    rw [hstory] at hasked
    exact ⟨rfl, hasked, rfl⟩
  · have hstair : (atTheStair.state.stage.regionAt? ⟨5, 5⟩).map (fun r => (r.action, r.arg)) =
        some (some " Go ", some " attic ") := by decide +kernel
    have hoff : ∀ r ∈ Stage.slotRects, r.contains ⟨5, 5⟩ ≠ true := by decide +kernel
    have hgranted : granted? {} atTheStair.state "attic" = some ⟨"attic"⟩ := by decide +kernel
    obtain ⟨log, hrun⟩ := run_atTheStair
    have hquiet := quiet_atTheStair
    generalize atTheStair = f at *
    obtain ⟨r, hr, hwritten⟩ := Option.map_eq_some_iff.1 hstair
    obtain ⟨haction, harg⟩ := Prod.mk.inj hwritten
    have hlast := Stage.regionAt?_eq_some_iff.1 hr
    have hnot : ¬ f.state.OnSlot ⟨5, 5⟩ := fun ⟨_, r, hin, hcontains⟩ => hoff r hin hcontains
    refine ⟨⟨log, hrun⟩, hquiet, ⟨r, hlast, haction, harg⟩, ?_⟩
    refine (tap_is_routed hrun hquiet ⟨5, 5⟩).mono fun asked b answer => ?_
    rintro ⟨outcome, rfl, hrouted⟩
    obtain ⟨o, rfl, hperformed⟩ := hrouted.performed hnot r hlast
    rw [haction, harg] at hperformed
    obtain ⟨rfl, hcompletes⟩ := hperformed.gone "attic" (by decide +kernel) (by decide +kernel)
    rw [hgranted] at hcompletes ⊢
    exact ⟨rfl, hcompletes⟩

end Gamebook.App
