import Gamebook.Proofs.App.Announcements
import Gamebook.Proofs.App.Panel

/-! Navigations and deliveries in whole traces. What the calls were accepted for, what was broadcast and what was
handed to the crew are lists that grow with each event; `Account` says how they go together with what is still
waited for and what is still in the channel, and `account_of_trace` that every trace keeps it. -/
namespace Gamebook.App

open Act

variable {c : Settings} {answers : (r : Request) → r.Reply → Prop} {a : App} {queue : List ScreenChange}
variable {es : List (protocol c).Event} {e : (protocol c).Event} {f : (protocol c).Flight}

/-- The change of the navigation that a call is accepted for in an event: it can only be in its first step. -/
def accepted (e : (protocol c).Event) : List ScreenChange :=
  match e.exchange? with
  | some _ => []
  | none => e.course?.elim [] fun course => opens c course.call e.before.state

def broadcast (e : (protocol c).Event) : List ScreenChange := sent e.before.state e.after.state

def handedOn (e : (protocol c).Event) : List ScreenChange := handed e.before.state e.after.state

def first? (e : (protocol c).Event) : Option (Made App Next) :=
  match e.exchange? with
  | some x => some (leadOn c x.asked x.reply e.before.state)
  | none => e.course?.map fun course => lead c course.call e.before.state

/-- A broadcast in time: the reply for the regions has come in this event, or there are no regions. -/
def Settled (e : (protocol c).Event) (ch : ScreenChange) : Prop :=
  match e.exchange? with
  | some x => x.asked.awaits = [ch]
  | none => Plain e.before.state ch.screen

/-- No more is undelivered than the channel keeps, when an event has broadcast what it does. -/
def Room (e : (protocol c).Event) : Prop :=
  e.before.state.navigation.transitions.tail - e.before.state.taken + (broadcast e).length ≤ Transitions.capacity

def owed (e : (protocol c).Event) : List ScreenChange :=
  match e.exchange? with
  | some x => x.asked.awaits
  | none => accepted e

def drained (e : (protocol c).Event) : Bool :=
  match e.exchange? with
  | some x => x.asked.drains
  | none => false

/-- The change that the call of a number still waits to announce. -/
def awaited (n : Nat) (f : (protocol c).Flight) : List ScreenChange :=
  f.courses[n]?.elim [] fun course => awaits course.standing

def inAll (part : (protocol c).Event → List ScreenChange) (es : List (protocol c).Event) : List ScreenChange :=
  es.reverse.flatMap part

def inCall (n : Nat) (part : (protocol c).Event → List ScreenChange) (es : List (protocol c).Event) :
    List ScreenChange :=
  inAll part (es.filter fun e => e.number = n)

theorem inAll_cons (part : (protocol c).Event → List ScreenChange) (e : (protocol c).Event)
    (es : List (protocol c).Event) : inAll part (e :: es) = inAll part es ++ part e := by
  simp [inAll]

theorem inCall_cons_self (part : (protocol c).Event → List ScreenChange) (e : (protocol c).Event)
    (es : List (protocol c).Event) : inCall e.number part (e :: es) = inCall e.number part es ++ part e := by
  rw [inCall, List.filter_cons_of_pos (by simp), inAll_cons]
  rfl

theorem inCall_cons_of_ne {n : Nat} (h : n ≠ e.number) (part : (protocol c).Event → List ScreenChange)
    (es : List (protocol c).Event) : inCall n part (e :: es) = inCall n part es := by
  rw [inCall, List.filter_cons_of_neg (by simpa using h.symm)]
  rfl

def Roams (f : (protocol c).Flight) : Prop := ∀ course ∈ f.courses, Roaming course.standing

structure Turn (queue : List ScreenChange) (e : (protocol c).Event) (course : (protocol c).Course) : Prop where
  call : e.course? = some course
  owed : awaited e.number e.before ++ accepted e = owed e
  stepped : Stepped queue (App.owed e) (Settled e) (drained e) e.before.state e.after.state course.standing
  delivers : ∃ made, first? e = some made ∧ Delivers c made (handedOn e) e.after.state
  current : ∀ ch ∈ accepted e, e.after.state.stage.current? = some ch
  others : ∀ other ∈ e.before.courses, other ∈ e.after.courses ∨ drains other.standing = drained e

theorem current_thenDrain (next : Next) (b : App) :
    (thenDrain c next b).state.stage.current? = b.stage.current? := by
  cases next with
  | rest p => rfl
  | drain k =>
    obtain ⟨hgeneration, hactive⟩ := Prod.mk.inj ((Stage.unseen_now.aside c).pump b)
    exact Stage.current?_congr hgeneration hactive

theorem turn_of_begun {call : Call} (hcall : call.Roams) (hroom : Room (Protocol.Event.begun (protocol c) f call))
    (hq : f.state.navigation.transitions.Holds f.state.taken queue) :
    Turn queue (.begun (protocol c) f call) (.ofCall (protocol c) call f.state) := by
  have hcourse := Protocol.Event.course?_begun (P := protocol c) f call
  have haccepted : accepted (.begun (protocol c) f call) = opens c call f.state := by
    show (Protocol.Event.course? _).elim _ _ = _
    rw [hcourse]
    rfl
  have hfirst : first? (.begun (protocol c) f call) = some (lead c call f.state) := by
    show (Protocol.Event.course? _).map _ = _
    rw [hcourse]
    rfl
  have hmade : begin c call f.state = (lead c call >>= thenDrain c) f.state := by rw [begin_eq hcall]
  have hstate : (begin c call f.state).state =
      (thenDrain c (lead c call f.state).value (lead c call f.state).state).state := by rw [hmade]; rfl
  have hvalue : (begin c call f.state).value =
      (thenDrain c (lead c call f.state).value (lead c call f.state).state).value := by rw [hmade]; rfl
  have hsize := hq.tail
  have hroom : f.state.navigation.transitions.tail - f.state.taken +
    (sent f.state (begin c call f.state).state).length ≤ Transitions.capacity := hroom
  obtain ⟨hstepped, hdelivers⟩ := stepped_of_led (led_lead hcall f.state) hq (by rw [← hstate]; omega)
  rw [← hstate, ← hvalue] at hstepped
  rw [← hstate] at hdelivers
  refine ⟨hcourse, ?_, ?_, ⟨_, hfirst, hdelivers⟩, fun ch hch => ?_, fun other hother => ?_⟩
  · have hnone : awaited f.courses.length f = [] := by
      rw [awaited, List.getElem?_eq_none (Nat.le_refl _)]
      rfl
    exact congrArg (· ++ accepted (.begun (protocol c) f call)) hnone
  · rw [← haccepted] at hstepped
    exact hstepped
  · rw [haccepted] at hch
    show (begin c call f.state).state.stage.current? = some ch
    rw [hstate, current_thenDrain]
    exact current_lead hcall hch
  · exact .inl (List.mem_append_left _ hother)

theorem turn_of_resumed {s : App} {before after : List (protocol c).Course} {course : (protocol c).Course}
    {w : Waiting} {reply : w.request.Reply} (hw : course.standing = .waiting w) (hroams : w.Roams)
    (hroom : Room (Protocol.Event.resumed (P := protocol c) s before course after w reply))
    (hq : s.navigation.transitions.Holds s.taken queue) :
    Turn queue (.resumed (P := protocol c) s before course after w reply) (course.next w reply s) := by
  have hmade : resume c w reply s = (leadOn c w reply >>= thenDrain c) s := by rw [resume_eq_leadOn hroams]
  have hstate : (resume c w reply s).state =
      (thenDrain c (leadOn c w reply s).value (leadOn c w reply s).state).state := by rw [hmade]; rfl
  have hvalue : (resume c w reply s).value =
      (thenDrain c (leadOn c w reply s).value (leadOn c w reply s).state).value := by rw [hmade]; rfl
  have hsize := hq.tail
  have hroom : s.navigation.transitions.tail - s.taken +
    (sent s (resume c w reply s).state).length ≤ Transitions.capacity := hroom
  obtain ⟨hstepped, hdelivers⟩ := stepped_of_led (led_leadOn hroams reply s) hq (by rw [← hstate]; omega)
  rw [← hstate, ← hvalue] at hstepped
  rw [← hstate] at hdelivers
  refine ⟨Protocol.Event.course?_resumed _ _ _ _ _ _, ?_, hstepped, ⟨_, rfl, hdelivers⟩, fun ch hch => ?_,
    fun other hother => ?_⟩
  · show awaited before.length ⟨s, before ++ course :: after⟩ ++ [] = w.awaits
    rw [awaited, List.getElem?_append_right (Nat.le_refl _), Nat.sub_self, List.append_nil]
    show awaits course.standing = w.awaits
    rw [hw]
    rfl
  · cases hch
  · have hother : other ∈ before ++ course :: after := hother
    show other ∈ before ++ course.next w reply s :: after ∨ _
    rcases List.mem_append.1 hother with h | h
    · exact .inl (List.mem_append_left _ h)
    · rcases List.mem_cons.1 h with rfl | h
      · right
        rw [hw]
        rfl
      · exact .inl (List.mem_append_right _ (List.mem_cons_of_mem _ h))

theorem turn_of_happens (he : e.Happens Call.Roams answers) (hroams : Roams e.before)
    (hq : e.before.state.navigation.transitions.Holds e.before.state.taken queue) (hroom : Room e) :
    ∃ course, Turn queue e course := by
  cases he with
  | begin f hcall => exact ⟨_, turn_of_begun hcall hroom hq⟩
  | resume reply hw hready hreply =>
    exact ⟨_, turn_of_resumed hw (hroams _ (List.mem_append_right _ List.mem_cons_self) _ hw) hroom hq⟩

structure Account (queue : List ScreenChange) (es : List (protocol c).Event) (f : (protocol c).Flight) : Prop where
  roams : Roams f
  channel : ∃ left, f.state.navigation.transitions.Holds f.state.taken left ∧
    queue ++ inAll broadcast es = inAll handedOn es ++ left ∧
    (left = [] ∨ inAll broadcast es = [] ∨ ∃ course ∈ f.courses, drains course.standing = true)
  once : ∀ n, inCall n broadcast es ++ awaited n f = inCall n accepted es
  numbers : ∀ e ∈ es, e.number < f.courses.length
  single : ∀ n, (inCall n accepted es).length ≤ 1
  rising : (inAll accepted es).Pairwise fun ch ch' => ch.generation < ch'.generation
  bounded : ∀ ch ∈ inAll accepted es, ch.generation ≤ f.state.stage.generation
  events : ∀ e ∈ es, (∀ ch ∈ accepted e, e.after.state.stage.current? = some ch) ∧
    (∀ ch ∈ broadcast e, Settled e ch) ∧ ∃ made, first? e = some made ∧ Delivers c made (handedOn e) e.after.state

theorem Account.start (hq : a.navigation.transitions.Holds a.taken queue) :
    Account (c := c) queue [] ⟨a, []⟩ where
  roams _ h := absurd h List.not_mem_nil
  channel := ⟨queue, hq, List.append_nil _, .inr (.inl rfl)⟩
  once _ := rfl
  numbers _ h := absurd h List.not_mem_nil
  single _ := Nat.zero_le _
  rising := .nil
  bounded _ h := absurd h List.not_mem_nil
  events _ h := absurd h List.not_mem_nil

theorem accepted_eq (e : (protocol c).Event) : accepted e = [] ∨ ∃ call, accepted e = opens c call e.before.state := by
  unfold accepted
  cases e.exchange? with
  | some x => exact .inl rfl
  | none =>
    cases e.course? with
    | none => exact .inl rfl
    | some course => exact .inr ⟨course.call, rfl⟩

theorem generation_of_mem_accepted {ch : ScreenChange} (h : ch ∈ accepted e) :
    ch.generation = e.before.state.stage.generation + 1 := by
  rcases accepted_eq e with hnone | ⟨call, hopens⟩
  · rw [hnone] at h
    cases h
  · rw [hopens, opens, Option.mem_toList, Option.map_eq_some_iff] at h
    obtain ⟨screen, -, rfl⟩ := h
    rfl

theorem length_accepted_le (e : (protocol c).Event) : (accepted e).length ≤ 1 := by
  rcases accepted_eq e with hnone | ⟨call, hopens⟩
  · rw [hnone]
    exact Nat.zero_le _
  · rw [hopens]
    exact length_opens_le call _

theorem number_of_accepted (he : e.Happens Call.Roams answers) (h : accepted e ≠ []) :
    e.number = e.before.courses.length := by
  cases he with
  | begin f hcall => rfl
  | resume reply hw hready hreply => exact absurd rfl h

theorem mem_courses_of_happens (he : e.Happens Call.Roams answers) {course other : (protocol c).Course}
    (hcourse : e.course? = some course) (h : other ∈ e.after.courses) : other = course ∨ other ∈ e.before.courses := by
  obtain ⟨n, hn⟩ := List.getElem?_of_mem h
  by_cases hnumber : n = e.number
  · subst hnumber
    exact .inl (Option.some.inj (hn.symm.trans hcourse))
  · exact .inr (List.mem_of_getElem? ((he.courses_of_ne hnumber).symm.trans hn))

theorem length_le_of_happens (he : e.Happens Call.Roams answers) :
    e.before.courses.length ≤ e.after.courses.length := by
  cases he with
  | begin f hcall => simp [Protocol.Event.begun]
  | resume reply hw hready hreply => simp [Protocol.Event.resumed]

namespace Account

variable {course : (protocol c).Course} {left : List ScreenChange}

theorem once_step (h : Account queue es e.before) (he : e.Happens Call.Roams answers)
    (hturn : Turn left e course) (n : Nat) :
    inCall n broadcast (e :: es) ++ awaited n e.after = inCall n accepted (e :: es) := by
  by_cases hn : n = e.number
  · subst hn
    have hafter : awaited e.number e.after = awaits course.standing := by
      rw [awaited, show e.after.courses[e.number]? = some course from hturn.call]
      rfl
    have hdue : broadcast e ++ awaits course.standing = owed e := hturn.stepped.due
    calc inCall e.number broadcast (e :: es) ++ awaited e.number e.after
        = inCall e.number broadcast es ++ (broadcast e ++ awaits course.standing) := by
          rw [inCall_cons_self, hafter, List.append_assoc]
      _ = inCall e.number broadcast es ++ awaited e.number e.before ++ accepted e := by
          rw [hdue, ← hturn.owed, List.append_assoc]
      _ = inCall e.number accepted (e :: es) := by rw [h.once, inCall_cons_self]
  · rw [inCall_cons_of_ne hn, inCall_cons_of_ne hn, awaited, he.courses_of_ne hn]
    exact h.once n

theorem single_step (h : Account queue es e.before) (he : e.Happens Call.Roams answers) (n : Nat) :
    (inCall n accepted (e :: es)).length ≤ 1 := by
  by_cases hn : n = e.number
  · subst hn
    by_cases hnone : accepted e = []
    · rw [inCall_cons_self, hnone, List.append_nil]
      exact h.single _
    · have hearlier : es.filter (fun e' => e'.number = e.number) = [] := by
        refine List.filter_eq_nil_iff.2 fun e' he' => ?_
        have hlt := h.numbers e' he'
        have hnumber := number_of_accepted he hnone
        simp only [decide_eq_true_eq]
        omega
      have hempty : inCall e.number accepted es = [] := by
        rw [inCall, hearlier]
        rfl
      rw [inCall_cons_self, hempty]
      exact length_accepted_le e
  · rw [inCall_cons_of_ne hn]
    exact h.single n

theorem rising_step (h : Account queue es e.before) :
    (inAll accepted (e :: es)).Pairwise fun ch ch' => ch.generation < ch'.generation := by
  rw [inAll_cons, List.pairwise_append]
  refine ⟨h.rising, ?_, fun ch hch ch' hch' => ?_⟩
  · have hlength := length_accepted_le e
    match haccepted : accepted e with
    | [] => exact .nil
    | [ch] => exact List.pairwise_singleton _ _
    | _ :: _ :: _ =>
      rw [haccepted] at hlength
      simp at hlength
  · have hold := h.bounded ch hch
    have hnew := generation_of_mem_accepted hch'
    omega

/-- Either all is handed on, or a call is still at it, or nothing was ever broadcast. -/
theorem channel_step (h : Account queue es e.before) (he : e.Happens Call.Roams answers) (hroom : Room e) :
    ∃ course left, Turn left e course ∧ ∃ left', e.after.state.navigation.transitions.Holds e.after.state.taken left' ∧
      queue ++ inAll broadcast (e :: es) = inAll handedOn (e :: es) ++ left' ∧
      (left' = [] ∨ inAll broadcast (e :: es) = [] ∨ ∃ course ∈ e.after.courses, drains course.standing = true) := by
  obtain ⟨left, hleft, hsplit, hrest⟩ := h.channel
  obtain ⟨course, hturn⟩ := turn_of_happens he h.roams hleft hroom
  obtain ⟨left', hleft', hsplit', hrest'⟩ := hturn.stepped.channel
  have hsplit' : left ++ broadcast e = handedOn e ++ left' := hsplit'
  refine ⟨course, left, hturn, left', hleft', ?_, ?_⟩
  · rw [inAll_cons, inAll_cons, ← List.append_assoc, hsplit, List.append_assoc, hsplit', List.append_assoc]
  · rcases hrest' with hnone | hdrains | ⟨hdrained, rfl, hsent⟩
    · exact .inl hnone
    · exact .inr (.inr ⟨course, List.mem_of_getElem? hturn.call, hdrains⟩)
    · have hbroadcast : broadcast e = [] := hsent
      rcases hrest with hnone | hnone | ⟨other, hother, hdrains⟩
      · exact .inl hnone
      · exact .inr (.inl (by rw [inAll_cons, hnone, hbroadcast]; rfl))
      · rcases hturn.others other hother with hmem | hsame
        · exact .inr (.inr ⟨other, hmem, hdrains⟩)
        · rw [hdrains, hdrained] at hsame
          cases hsame

theorem step (h : Account queue es e.before) (he : e.Happens Call.Roams answers) (hroom : Room e) :
    Account queue (e :: es) e.after := by
  obtain ⟨course, left, hturn, hchannel⟩ := h.channel_step he hroom
  refine ⟨fun other hother => ?_, hchannel, h.once_step he hturn, fun e' he' => ?_, h.single_step he,
    h.rising_step, fun ch hch => ?_, fun e' he' => ?_⟩
  · rcases mem_courses_of_happens he hturn.call hother with rfl | hbefore
    · exact hturn.stepped.roams
    · exact h.roams other hbefore
  · rcases List.mem_cons.1 he' with rfl | hold
    · exact (List.getElem?_eq_some_iff.1 hturn.call).1
    · exact (h.numbers e' hold).trans_le (length_le_of_happens he)
  · rw [inAll_cons, List.mem_append] at hch
    rcases hch with hold | hnew
    · exact (h.bounded ch hold).trans (later_of_happens he).generation_le
    · have hcurrent := (Stage.current?_eq_some_iff _ _).1 (hturn.current ch hnew)
      exact ((Stage.isCurrent_iff ..).1 hcurrent).1.ge
  · rcases List.mem_cons.1 he' with rfl | hold
    · exact ⟨hturn.current, hturn.stepped.settled, hturn.delivers⟩
    · exact h.events e' hold

end Account

theorem account_of_trace (h : (protocol c).Trace Call.Roams answers ⟨a, []⟩ es f)
    (hq : a.navigation.transitions.Holds a.taken queue) (hroom : ∀ e ∈ es, Room e) : Account queue es f := by
  induction h with
  | start => exact .start hq
  | @step es e htrace he ih =>
    have haccount := ih fun e' he' => hroom e' (List.mem_cons_of_mem _ he')
    exact haccount.step he (hroom e List.mem_cons_self)

/-- What becomes of the navigations that calls are accepted for. Each has a generation of its own and is the
current one at once; its call has broadcast it once, or waits for its regions, and broadcasts nothing else;
it does so when the regions are settled. What is broadcast is handed to the crew once and in its order, all of
it when no call is under way any more. -/
structure Announced (queue : List ScreenChange) (es : List (protocol c).Event) (f : (protocol c).Flight) : Prop where
  current : ∀ e ∈ es, ∀ ch ∈ accepted e, e.after.state.stage.current? = some ch
  rising : (inAll accepted es).Pairwise fun ch ch' => ch.generation < ch'.generation
  single : ∀ n, (inCall n accepted es).length ≤ 1
  once : ∀ n, inCall n broadcast es ++ awaited n f = inCall n accepted es
  settled : ∀ e ∈ es, ∀ ch ∈ broadcast e, Settled e ch
  delivered : ∀ e ∈ es, ∃ made, first? e = some made ∧ Delivers c made (handedOn e) e.after.state
  order : ∃ left, f.state.navigation.transitions.Holds f.state.taken left ∧
    queue ++ inAll broadcast es = inAll handedOn es ++ left ∧ (f.Quiet → left = [] ∨ inAll broadcast es = [])

theorem not_drains_of_quiet (h : f.Quiet) : ¬ ∃ course ∈ f.courses, drains course.standing = true := by
  rintro ⟨course, hcourse, hdrains⟩
  obtain ⟨answer, hdone⟩ := (Progress.isDone_iff _).1 (h course hcourse)
  rw [hdone] at hdrains
  cases hdrains

/-- Calls that navigate and deliver in any order announce each accepted navigation once, and hand what they
announce to the crew once and in order, as long as the channel drops nothing unread. -/
theorem announced_once_in_order (h : (protocol c).Trace Call.Roams answers ⟨a, []⟩ es f)
    (hq : a.navigation.transitions.Holds a.taken queue) (hroom : ∀ e ∈ es, Room e) : Announced queue es f := by
  have haccount := account_of_trace h hq hroom
  obtain ⟨left, hleft, hsplit, hrest⟩ := haccount.channel
  refine ⟨fun e he => (haccount.events e he).1, haccount.rising, haccount.single, haccount.once,
    fun e he => (haccount.events e he).2.1, fun e he => (haccount.events e he).2.2, left, hleft, hsplit, ?_⟩
  intro hquiet
  rcases hrest with hnone | hnone | hdrains
  · exact .inl hnone
  · exact .inr hnone
  · exact absurd hdrains (not_drains_of_quiet hquiet)

/-- A hall, a library, a screen with a story, and a yard that has regions. -/
def yardDocs (path : String) : Except SourceFault Json.Value :=
  if path = "sec/screen_registry.json" then
    .ok (.object [("start_screen", .string "hall"), ("screens", .object [("hall", .object []),
      ("library_east", .object []), ("story_a", .object []), ("yard", .object [("hitboxes", .string "yard.json")])])])
  else taleDocs path

def inTheHall : (protocol {}).Flight :=
  Protocol.Flight.play (P := protocol {}) (sourceOf yardDocs) ⟨ofCatalog taleCatalog, []⟩
    [.begin (.boot none), .resume 0]

/-- The regions of the yard are fetched while the reader goes on to the story, and come when it is mounted. -/
def crossingMoves : List (Protocol.Move Call) :=
  [.begin (.go "yard"), .begin (.go "story_a"), .resume 0, .begin .pump, .resume 1, .resume 1]

def crossingEvents : List (protocol {}).Event :=
  Protocol.Flight.events (P := protocol {}) (sourceOf yardDocs) ⟨inTheHall.state, []⟩ crossingMoves

def crossing : (protocol {}).Flight :=
  Protocol.Flight.play (P := protocol {}) (sourceOf yardDocs) ⟨inTheHall.state, []⟩ crossingMoves

instance (e : (protocol c).Event) : Decidable (Room e) := inferInstanceAs (Decidable (_ ≤ _))

/-- The change of the story is announced and handed on before that of the yard. -/
theorem announced_once_in_order_crossing :
    (protocol {}).Trace Call.Roams (Fixed yardDocs) ⟨inTheHall.state, []⟩ crossingEvents crossing ∧
    crossing.Quiet ∧ Announced [] crossingEvents crossing ∧
    inAll accepted crossingEvents = [⟨⟨"yard"⟩, 2⟩, ⟨⟨"story_a"⟩, 3⟩] ∧
    inAll broadcast crossingEvents = [⟨⟨"story_a"⟩, 3⟩, ⟨⟨"yard"⟩, 2⟩] ∧
    inAll handedOn crossingEvents = [⟨⟨"story_a"⟩, 3⟩, ⟨⟨"yard"⟩, 2⟩] := by
  have htrace : (protocol {}).Trace Call.Roams (Fixed yardDocs) ⟨inTheHall.state, []⟩ crossingEvents crossing :=
    Protocol.trace_script (fixed_sourceOf yardDocs) (by simp [crossingMoves, Call.Roams])
  have hquiet : crossing.Quiet := by
    unfold Protocol.Flight.Quiet
    decide +kernel
  have hq : inTheHall.state.navigation.transitions.Holds inTheHall.state.taken [] :=
    ⟨by decide +kernel, by decide +kernel, by decide +kernel⟩
  have hroom : ∀ e ∈ crossingEvents, Room e := by decide +kernel
  exact ⟨htrace, hquiet, announced_once_in_order htrace hq hroom, by decide +kernel, by decide +kernel,
    by decide +kernel⟩

end Gamebook.App
