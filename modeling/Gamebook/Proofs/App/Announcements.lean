import Gamebook.Proofs.App.Ages
import Gamebook.Proofs.App.Turns

/-! What becomes of navigations that overlap. An accepted one opens a generation of its own, and its change is
sent once, when its regions are settled; every change that was sent is handed to the crew once, in the order
of the channel. A call owes the change that it opened until it has sent it, and whoever finds changes in the
channel owes their delivery: `Account` is kept by each step, as long as no change is dropped unread. -/
namespace Gamebook

namespace Navigation

/-- Where a pointer event asks to go. -/
def aim? (stage : Stage) (kind : PointerKind) (p : Stage.Point) : Option String := do
  let region ← target? stage kind p
  if region.verb = goVerb then region.object? else none

variable {c : NavigationSettings} {kind : PointerKind} {p : Stage.Point} {s : Staged Navigation}

theorem dispatch_of_aim {raw : String} (h : aim? s.stage kind p = some raw) :
    ∃ notices, dispatch c kind p s =
      ⟨(follow c raw s).state, notices, (follow c raw s).value.map id .navigated⟩ := by
  obtain ⟨region, hregion, haim⟩ := Option.bind_eq_some_iff.1 h
  simp only [dispatch, Act.bind_get, hregion, perform, haim]
  exact ⟨_, rfl⟩

theorem dispatch_of_no_aim (h : aim? s.stage kind p = none) :
    ∃ notices outcome, dispatch c kind p s = ⟨s, notices, .done outcome⟩ := by
  simp only [dispatch, Act.bind_get]
  cases hregion : target? s.stage kind p with
  | none => exact ⟨_, _, rfl⟩
  | some region =>
    simp only [aim?, hregion, Option.bind_eq_bind, Option.bind_some] at h
    simp only [perform, h]
    exact ⟨_, _, rfl⟩

end Navigation

namespace App

open Act
open Screen (Route)

variable {c : Settings} {a b : App}

/-- What a call asks to go to. A tap on a slot asks for nothing. -/
def asks? (a : App) : Call → Option String
  | .go raw => some raw
  | .tap p =>
    match Storybook.slotAt? ⟨a.stage, a.storybook⟩ p with
    | some _ => none
    | none => Navigation.aim? a.stage .up p
  | _ => none

variable (c) in
/-- The screen that a player may go to when it is asked for one; none if it has to refuse. -/
def granted? (a : App) (raw : String) : Option ScreenId := do
  let registry ← a.navigation.registry
  (a.navigation.memory.resolve (Route.ofText c.navigation.aliases raw) registry).toOption

variable (c) in
/-- The change of the navigation that a call is accepted for, in a generation of its own. -/
def opens (call : Call) (a : App) : List ScreenChange :=
  (((asks? a call).bind (granted? c a)).map (⟨·, a.stage.generation + 1⟩)).toList

theorem length_opens_le (call : Call) (a : App) : (opens c call a).length ≤ 1 := by
  unfold opens
  cases (asks? a call).bind (granted? c a) <;> simp

def Plain (a : App) (screen : ScreenId) : Prop :=
  ∃ registry, a.navigation.registry = some registry ∧ Navigation.document? registry screen = none

inductive Followed (a : App) : Option ScreenId → Made App (Progress Fitting (Option ScreenId)) → Prop
  | refused (notices : List Notice) : Followed a none ⟨a, notices, .done none⟩
  | departed {screen : ScreenId} {b : App} {w : Fitting} (notices : List Notice) :
      w.change = ⟨screen, a.stage.generation + 1⟩ → b.stage.current? = some w.change →
      b.navigation.transitions = a.navigation.transitions → b.taken = a.taken →
      Followed a (some screen) ⟨b, notices, .waiting w⟩
  | arrived {screen : ScreenId} {b : App} (notices : List Notice) : Plain a screen →
      b.stage.current? = some ⟨screen, a.stage.generation + 1⟩ →
      b.navigation.transitions = a.navigation.transitions.send ⟨screen, a.stage.generation + 1⟩ →
      b.taken = a.taken → Followed a (some screen) ⟨b, notices, .done (some screen)⟩

theorem followed_follow (raw : String) (a : App) :
    Followed a (granted? c a raw) (navigating (Navigation.follow c.navigation raw) a) := by
  simp only [navigating, within_apply, Navigation.follow, granted?]
  cases hr : a.navigation.registry with
  | none =>
    simp only [Navigation.go, bind_get, hr]
    exact .refused _
  | some registry =>
    simp only [Option.bind_eq_bind, Option.bind_some]
    cases hm : a.navigation.memory.resolve (Route.ofText c.navigation.aliases raw) registry with
    | error cause =>
      rw [Navigation.go_of_error (s := ⟨a.stage, a.navigation⟩) hr hm]
      exact .refused _
    | ok screen =>
      have hgone := Navigation.gone_go (c := c.navigation) (s := ⟨a.stage, a.navigation⟩) hr hm
      generalize Navigation.go c.navigation (Route.ofText c.navigation.aliases raw) ⟨a.stage, a.navigation⟩ = made
        at hgone ⊢
      cases hgone with
      | departed _ hdocument hd =>
        refine .departed _ (congrArg (ScreenChange.mk screen) hd.generation) ?_ hd.transitions rfl
        rw [Stage.current?, hd.active]
        rfl
      | @arrived t _ hdocument hd =>
        have hgeneration : t.stage.generation = a.stage.generation + 1 := hd.generation
        refine .arrived _ ⟨registry, hr, hdocument⟩ ?_ ?_ rfl
        · show t.stage.current? = _
          rw [Stage.current?, hd.active, hgeneration]
          rfl
        · show t.part.transitions.send ⟨screen, t.stage.generation⟩ = _
          rw [hd.transitions, hgeneration]

def Roaming (p : Progress Waiting Answer) : Prop := ∀ w, p = .waiting w → w.Roams

/-- How a call may stand that drains the channel. -/
structure Draining (k : Progress Telling Unit → Progress Waiting Answer) : Prop where
  done : ∃ answer, k (.done ()) = .done answer
  waiting : ∀ w, ∃ w', k (.waiting w) = .waiting w' ∧ w'.Roams ∧ w'.drains = true ∧ w'.awaits = []

theorem draining_goingOn (screen : Option ScreenId) : Draining (goingOn screen) :=
  ⟨⟨_, rfl⟩, fun _ => ⟨_, rfl, trivial, rfl, rfl⟩⟩

theorem draining_tappingOn (outcome : PointerOutcome) : Draining (tappingOn outcome) :=
  ⟨⟨_, rfl⟩, fun _ => ⟨_, rfl, trivial, rfl, rfl⟩⟩

theorem draining_pumpingOn : Draining pumpingOn := ⟨⟨_, rfl⟩, fun _ => ⟨_, rfl, trivial, rfl, rfl⟩⟩

/-- The first part of a step: what is due is still waited for, or is sent now; and a call that was draining
goes on with that. -/
inductive Led (a : App) (due : List ScreenChange) (settled : ScreenChange → Prop) (drained : Bool) :
    Made App Next → Prop
  | rest {b : App} {p : Progress Waiting Answer} (notices : List Notice) :
      b.navigation.transitions = a.navigation.transitions → b.taken = a.taken → awaits p = due → Roaming p →
      (drained = true → drains p = true) → Led a due settled drained ⟨b, notices, .rest p⟩
  | drain {b : App} {k : Progress Telling Unit → Progress Waiting Answer} (notices : List Notice) :
      b.navigation.transitions = a.navigation.transitions → b.taken = a.taken → due = [] → Draining k →
      Led a due settled drained ⟨b, notices, .drain k⟩
  | send {b : App} {ch : ScreenChange} {k : Progress Telling Unit → Progress Waiting Answer}
      (notices : List Notice) : settled ch → b.navigation.transitions = a.navigation.transitions.send ch →
      b.taken = a.taken → due = [ch] → Draining k → Led a due settled drained ⟨b, notices, .drain k⟩

theorem led_of_followed {goal : Option ScreenId} {made : Made App (Progress Fitting (Option ScreenId))}
    (h : Followed a goal made) (wait : Fitting → Waiting)
    (hwait : ∀ w, (wait w).Roams ∧ (wait w).awaits = [w.change])
    {next : Option ScreenId → Progress Telling Unit → Progress Waiting Answer}
    (hnext : ∀ screen, Draining (next screen)) (notices : List Notice) :
    Led a (goal.map (⟨·, a.stage.generation + 1⟩)).toList (fun ch => Plain a ch.screen) false
      ⟨made.state, notices, match made.value with
        | .waiting w => .rest (.waiting (wait w))
        | .done screen => .drain (next screen)⟩ := by
  cases h with
  | refused notices => exact .drain _ rfl rfl rfl (hnext _)
  | @departed screen b w notices hchange _ htransitions htaken =>
    refine .rest _ htransitions htaken ?_ ?_ (fun h => nomatch h)
    · show (wait w).awaits = _
      rw [(hwait w).2, hchange]
      rfl
    · rintro _ ⟨⟩
      exact (hwait w).1
  | arrived notices hplain _ htransitions htaken =>
    exact .send _ hplain htransitions htaken rfl (hnext _)

theorem current_of_followed {goal : Option ScreenId} {made : Made App (Progress Fitting (Option ScreenId))}
    (h : Followed a goal made) {ch : ScreenChange}
    (hch : ch ∈ (goal.map (⟨·, a.stage.generation + 1⟩)).toList) : made.state.stage.current? = some ch := by
  cases h with
  | refused => cases hch
  | departed _ hchange hcurrent =>
    rw [hcurrent, hchange]
    exact congrArg some (List.mem_singleton.1 hch).symm
  | arrived _ _ hcurrent =>
    rw [hcurrent]
    exact congrArg some (List.mem_singleton.1 hch).symm

inductive Stays (a : App) : Made App Next → Prop
  | chosen {b : App} {p : Progress Waiting Answer} (notices : List Notice) : b.channel = a.channel →
      awaits p = [] → Roaming p → Stays a ⟨b, notices, .rest p⟩
  | missed {k : Progress Telling Unit → Progress Waiting Answer} (notices : List Notice) : Draining k →
      Stays a ⟨a, notices, .drain k⟩

theorem lead_go_eq (raw : String) (a : App) :
    ∃ notices, lead c (.go raw) a = ⟨(navigating (Navigation.follow c.navigation raw) a).state, notices,
      match (navigating (Navigation.follow c.navigation raw) a).value with
        | .waiting w => .rest (.waiting (.going (.following w)))
        | .done screen => .drain (goingOn screen)⟩ := by
  simp only [lead, bind_apply]
  cases (navigating (Navigation.follow c.navigation raw) a).value <;> exact ⟨_, rfl⟩

theorem lead_tap_eq {p : Stage.Point} {a : App} {raw : String} (h : asks? a (.tap p) = some raw) :
    ∃ notices, lead c (.tap p) a = ⟨(navigating (Navigation.follow c.navigation raw) a).state, notices,
      match (navigating (Navigation.follow c.navigation raw) a).value with
        | .waiting w => .rest (.waiting (.tapping (.dispatching w)))
        | .done screen => .drain (tappingOn (.navigated screen))⟩ := by
  cases hslot : Storybook.slotAt? ⟨a.stage, a.storybook⟩ p with
  | some slot =>
    simp only [asks?, hslot] at h
    cases h
  | none =>
    simp only [asks?, hslot] at h
    obtain ⟨notices, hdispatch⟩ := Navigation.dispatch_of_aim (c := c.navigation)
      (s := ⟨a.stage, a.navigation⟩) h
    simp only [lead, bind_get, hslot]
    simp only [navigating, bind_apply, within_apply, hdispatch]
    cases (Navigation.follow c.navigation raw ⟨a.stage, a.navigation⟩).value <;> exact ⟨_, rfl⟩

theorem stays_tap {p : Stage.Point} {a : App} (h : asks? a (.tap p) = none) : Stays a (lead c (.tap p) a) := by
  cases hslot : Storybook.slotAt? ⟨a.stage, a.storybook⟩ p with
  | some slot =>
    simp only [lead, bind_get, hslot]
    simp only [bind_apply, pure_apply]
    cases (reading (Storybook.selectAt c.story p) a).value with
    | done node => exact .chosen _ rfl rfl fun _ h => by cases h
    | waiting w => exact .chosen _ rfl rfl fun _ h => by cases h; trivial
  | none =>
    simp only [asks?, hslot] at h
    obtain ⟨notices, outcome, hdispatch⟩ := Navigation.dispatch_of_no_aim (c := c.navigation)
      (s := ⟨a.stage, a.navigation⟩) h
    simp only [lead, bind_get, hslot]
    simp only [navigating, bind_apply, within_apply, hdispatch]
    exact .missed _ (draining_tappingOn outcome)

theorem led_of_stays {made : Made App Next} (h : Stays a made) {settled : ScreenChange → Prop} :
    Led a [] settled false made := by
  cases h with
  | chosen notices hchannel hawaits hroams =>
    obtain ⟨hnavigation, htaken⟩ := Prod.mk.inj hchannel
    exact .rest _ (congrArg Navigation.transitions hnavigation) htaken hawaits hroams fun h => nomatch h
  | missed notices hk => exact .drain _ rfl rfl rfl hk

theorem opens_of_asks_none {call : Call} (h : asks? a call = none) : opens c call a = [] := by
  simp only [opens, h, Option.bind_none, Option.map_none, Option.toList_none]

theorem opens_of_asks {call : Call} {raw : String} (h : asks? a call = some raw) :
    opens c call a = ((granted? c a raw).map (⟨·, a.stage.generation + 1⟩)).toList := by
  simp only [opens, h, Option.bind_some]

theorem led_lead {call : Call} (h : call.Roams) (a : App) :
    Led a (opens c call a) (fun ch => Plain a ch.screen) false (lead c call a) := by
  match call, h with
  | .go raw, _ =>
    obtain ⟨notices, hlead⟩ := lead_go_eq (c := c) raw a
    rw [hlead]
    exact led_of_followed (followed_follow raw a) (fun w => .going (.following w)) (fun _ => ⟨trivial, rfl⟩)
      draining_goingOn notices
  | .tap p, _ =>
    cases hasks : asks? a (.tap p) with
    | none =>
      rw [opens_of_asks_none hasks]
      exact led_of_stays (stays_tap hasks)
    | some raw =>
      obtain ⟨notices, hlead⟩ := lead_tap_eq (c := c) hasks
      rw [opens_of_asks hasks, hlead]
      exact led_of_followed (followed_follow raw a) (fun w => .tapping (.dispatching w)) (fun _ => ⟨trivial, rfl⟩)
        (fun screen => draining_tappingOn (.navigated screen)) notices
  | .pump, _ => exact .drain _ rfl rfl rfl draining_pumpingOn

/-- A navigation that is accepted is the current one at once. -/
theorem current_lead {call : Call} (h : call.Roams) {ch : ScreenChange} (hch : ch ∈ opens c call a) :
    (lead c call a).state.stage.current? = some ch := by
  match call, h with
  | .go raw, _ =>
    obtain ⟨notices, hlead⟩ := lead_go_eq (c := c) raw a
    rw [hlead]
    exact current_of_followed (followed_follow raw a) hch
  | .tap p, _ =>
    cases hasks : asks? a (.tap p) with
    | none =>
      rw [opens_of_asks_none hasks] at hch
      cases hch
    | some raw =>
      obtain ⟨notices, hlead⟩ := lead_tap_eq (c := c) hasks
      rw [opens_of_asks hasks] at hch
      rw [hlead]
      exact current_of_followed (followed_follow raw a) hch
  | .pump, _ => cases hch

theorem led_leadNotify {settled : ScreenChange → Prop} (w : Telling) (reply : w.request.Reply)
    {k : Progress Telling Unit → Progress Waiting Answer} (hk : Draining k) (a : App) :
    Led a [] settled true (leadNotify c w reply k a) := by
  have hkeep := keeps_channel_resumeNotify (c := c) w reply a
  simp only [leadNotify, bind_apply]
  generalize resumeNotify c w reply a = made at hkeep ⊢
  obtain ⟨b, notices, p⟩ := made
  obtain ⟨hnavigation, htaken⟩ := Prod.mk.inj hkeep
  have htransitions := congrArg Navigation.transitions hnavigation
  cases p with
  | done => exact .drain _ htransitions htaken rfl hk
  | waiting w =>
    obtain ⟨w', hw', hroams, hdrains, hawaits⟩ := hk.waiting w
    refine .rest _ htransitions htaken ?_ ?_ fun _ => ?_
    · rw [hw']
      exact hawaits
    · intro w'' h
      rw [hw'] at h
      cases h
      exact hroams
    · rw [hw']
      exact hdrains

theorem led_settle (w : Fitting) (reply : w.request.Reply)
    {next : Option ScreenId → Progress Telling Unit → Progress Waiting Answer}
    (hnext : ∀ screen, Draining (next screen)) (a : App) :
    Led a [w.change] (fun ch => [w.change] = [ch]) false
      ((do return Next.drain (next (← navigating (Navigation.settle w reply))) : Act App Next) a) := by
  have htransitions : (navigating (Navigation.settle w reply) a).state.navigation.transitions =
      a.navigation.transitions.send w.change := by
    show (Navigation.settle w reply ⟨a.stage, a.navigation⟩).state.part.transitions = _
    rw [Navigation.settle_state]
    rfl
  exact .send _ rfl htransitions rfl rfl (hnext _)

theorem led_leadOn {w : Waiting} (h : w.Roams) (reply : w.request.Reply) (a : App) :
    Led a w.awaits (fun ch => w.awaits = [ch]) w.drains (leadOn c w reply a) := by
  match w, h, reply with
  | .going (.following w), _, reply => exact led_settle w reply draining_goingOn a
  | .going (.pumping screen w), _, reply => exact led_leadNotify w reply (draining_goingOn screen) a
  | .tapping (.choosing w), _, reply => exact .rest _ rfl rfl rfl (fun _ h => nomatch h) (fun h => nomatch h)
  | .tapping (.dispatching w), _, reply =>
    exact led_settle w reply (fun screen => draining_tappingOn (.navigated screen)) a
  | .tapping (.pumping outcome w), _, reply => exact led_leadNotify w reply (draining_tappingOn outcome) a
  | .pumping w, _, reply => exact led_leadNotify w reply draining_pumpingOn a

def sent (a b : App) : List ScreenChange := a.navigation.transitions.sentSince b.navigation.transitions

def handed (a b : App) : List ScreenChange := (received a b).map (·.change)

theorem sent_of_same (h : b.navigation.transitions = a.navigation.transitions) : sent a b = [] := by
  rw [sent, h, Transitions.sentSince_self]

theorem sent_of_send {ch : ScreenChange} (h : b.navigation.transitions = a.navigation.transitions.send ch) :
    sent a b = [ch] := by
  rw [sent, h, Transitions.sentSince_send]

theorem handed_eq {chs left : List ScreenChange} (h : b.navigation.transitions.Holds a.taken (chs ++ left))
    (htaken : b.taken = a.taken + chs.length) : handed a b = chs := by
  have htake : ((chs ++ left).map Receipt.change).take chs.length = chs.map Receipt.change := by
    rw [List.map_append, List.take_append_of_le_length (List.length_map _).ge,
      List.take_of_length_le (List.length_map _).le]
  rw [handed, received, h.unread_eq, htaken, Nat.add_sub_cancel_left, htake, List.filterMap_map, List.map_filterMap]
  exact (List.filterMap_congr fun _ _ => rfl).trans List.filterMap_some

variable (c) in
/-- What a step took from the channel it handed to the crew, after its first part and if it drains at all. -/
def Delivers (made : Made App Next) (chs : List ScreenChange) (b : App) : Prop :=
  match made.value with
  | .rest _ => chs = [] ∧ b = made.state
  | .drain _ => ∃ p, Hands c made.state chs b p

structure DrainedBy (a d : App) (queue : List ScreenChange) (p : Progress Waiting Answer) : Prop where
  split : ∃ left, d.navigation.transitions.Holds d.taken left ∧ queue = handed a d ++ left ∧
    (left = [] ∨ drains p = true)
  awaits : awaits p = []
  roams : Roaming p

theorem navigation_drain (k : Progress Telling Unit → Progress Waiting Answer) :
    (thenDrain c (.drain k) b).state.navigation = b.navigation := untold_navigation.pump b

theorem drainedBy_drain {queue : List ScreenChange} (h : b.navigation.transitions.Holds b.taken queue)
    (htaken : b.taken = a.taken) {k : Progress Telling Unit → Progress Waiting Answer} (hk : Draining k) :
    DrainedBy a (thenDrain c (.drain k) b).state queue (thenDrain c (.drain k) b).value ∧
      ∃ p, Hands c b (handed a (thenDrain c (.drain k) b).state) (thenDrain c (.drain k) b).state p := by
  obtain ⟨chs, left, rfl, hhands, hcount, hdone⟩ := drained_pump (c := c) h
  have hnavigation : (pump c b).state.navigation = b.navigation := untold_navigation.pump b
  simp only [thenDrain, bind_apply, pure_apply]
  generalize pump c b = made at hhands hcount hdone hnavigation
  obtain ⟨d, notices, p⟩ := made
  have hholds : d.navigation.transitions.Holds a.taken (chs ++ left) := by
    rw [← htaken, hnavigation]
    exact h
  have hadvanced : d.taken = a.taken + chs.length := htaken ▸ hcount
  have hhanded : handed a d = chs := handed_eq hholds hadvanced
  have hleft : d.navigation.transitions.Holds d.taken left := hadvanced ▸ hholds.advance
  refine ⟨?_, p, hhanded.symm ▸ hhands⟩
  cases p with
  | done =>
    obtain ⟨answer, hanswer⟩ := hk.done
    refine ⟨⟨left, hleft, by rw [hhanded], .inl (hdone rfl)⟩, by rw [hanswer]; rfl, ?_⟩
    rw [hanswer]
    rintro _ ⟨⟩
  | waiting w =>
    obtain ⟨w', hw', hroams, hdrains, hawaits⟩ := hk.waiting w
    refine ⟨⟨left, hleft, by rw [hhanded], .inr ?_⟩, ?_, ?_⟩
    · rw [hw']
      exact hdrains
    · rw [hw']
      exact hawaits
    · rw [hw']
      rintro _ ⟨⟩
      exact hroams

structure Stepped (queue due : List ScreenChange) (settled : ScreenChange → Prop) (drained : Bool) (a b : App)
    (p : Progress Waiting Answer) : Prop where
  channel : ∃ left, b.navigation.transitions.Holds b.taken left ∧ queue ++ sent a b = handed a b ++ left ∧
    (left = [] ∨ drains p = true ∨ drained = false ∧ left = queue ∧ sent a b = [])
  due : sent a b ++ awaits p = due
  settled : ∀ ch ∈ sent a b, settled ch
  roams : Roaming p

theorem stepped_rest {queue due : List ScreenChange} {settled : ScreenChange → Prop} {drained : Bool}
    {p : Progress Waiting Answer} (hq : a.navigation.transitions.Holds a.taken queue)
    (htransitions : b.navigation.transitions = a.navigation.transitions) (htaken : b.taken = a.taken)
    (hdue : awaits p = due) (hroams : Roaming p) (hdrained : drained = true → drains p = true) :
    Stepped queue due settled drained a b p ∧ handed a b = [] := by
  have hsent : sent a b = [] := sent_of_same htransitions
  have hhanded : handed a b = [] := by rw [handed, received_of_taken_eq htaken, List.map_nil]
  have hleft : b.navigation.transitions.Holds b.taken queue := by rw [htransitions, htaken]; exact hq
  refine ⟨⟨⟨queue, hleft, ?_, ?_⟩, ?_, ?_, hroams⟩, hhanded⟩
  · rw [hsent, hhanded, List.append_nil, List.nil_append]
  · cases drained with
    | true => exact .inr (.inl (hdrained rfl))
    | false => exact .inr (.inr ⟨rfl, rfl, hsent⟩)
  · rw [hsent, List.nil_append, hdue]
  · rw [hsent]
    exact fun _ h => absurd h List.not_mem_nil

theorem stepped_drain {queue due : List ScreenChange} {settled : ScreenChange → Prop} {drained : Bool}
    {k : Progress Telling Unit → Progress Waiting Answer}
    (hb : b.navigation.transitions.Holds b.taken (queue ++ due)) (htaken : b.taken = a.taken)
    (hsent : sent a (thenDrain c (.drain k) b).state = due) (hsettled : ∀ ch ∈ due, settled ch) (hk : Draining k) :
    Stepped queue due settled drained a (thenDrain c (.drain k) b).state (thenDrain c (.drain k) b).value ∧
      ∃ p, Hands c b (handed a (thenDrain c (.drain k) b).state) (thenDrain c (.drain k) b).state p := by
  obtain ⟨⟨⟨left, hleft, hsplit, hdone⟩, hawaits, hroams⟩, hhands⟩ := drainedBy_drain (c := c) hb htaken hk
  refine ⟨⟨⟨left, hleft, ?_, ?_⟩, ?_, ?_, hroams⟩, hhands⟩
  · rw [hsent]
    exact hsplit
  · exact hdone.elim .inl fun h => .inr (.inl h)
  · rw [hsent, hawaits, List.append_nil]
  · rw [hsent]
    exact hsettled

theorem stepped_of_led {queue due : List ScreenChange} {settled : ScreenChange → Prop} {drained : Bool}
    {made : Made App Next} (h : Led a due settled drained made)
    (hq : a.navigation.transitions.Holds a.taken queue)
    (hroom : queue.length + (sent a (thenDrain c made.value made.state).state).length ≤ Transitions.capacity) :
    Stepped queue due settled drained a (thenDrain c made.value made.state).state
      (thenDrain c made.value made.state).value ∧
    Delivers c made (handed a (thenDrain c made.value made.state).state)
      (thenDrain c made.value made.state).state := by
  cases h with
  | rest notices htransitions htaken hdue hroams hdrained =>
    exact (stepped_rest hq htransitions htaken hdue hroams hdrained).imp id (⟨·, rfl⟩)
  | @drain b k notices htransitions htaken hdue hk =>
    subst hdue
    have hsent : sent a (thenDrain c (.drain k) b).state = [] :=
      sent_of_same ((congrArg Navigation.transitions (navigation_drain k)).trans htransitions)
    refine stepped_drain ?_ htaken hsent (fun _ h => absurd h List.not_mem_nil) hk
    rw [htransitions, htaken, List.append_nil]
    exact hq
  | @send b ch k notices hsettled htransitions htaken hdue hk =>
    subst hdue
    have hsent : sent a (thenDrain c (.drain k) b).state = [ch] :=
      sent_of_send ((congrArg Navigation.transitions (navigation_drain k)).trans htransitions)
    refine stepped_drain ?_ htaken hsent (fun ch' h => (List.mem_singleton.1 h) ▸ hsettled) hk
    rw [hsent] at hroom
    rw [htransitions, htaken]
    exact hq.send ch hroom

end App
end Gamebook
