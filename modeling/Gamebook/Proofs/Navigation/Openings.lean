import Gamebook.Proofs.Navigation.Steps
import Gamebook.Proofs.Trace

/-! First navigations that overlap. Each asks for the registry unless it finds one, and keeps what it is
given; so it is kept once only as long as no call is given one that another has kept meanwhile. -/
namespace Gamebook.Navigation

def openings (c : Settings) :
    Protocol (Staged Navigation) (Option String) Opening (Except LoadFault Unit) where
  request := Opening.request
  begin := start c
  resume := Opening.resume c
  ready _ _ := true

section Events

variable {c : Settings}

/-- The registry that comes in a step, if it can be read, with the link of the call that asked for it. -/
def loaded? (e : (openings c).Event) : Option (Screen.Registry × Option String) :=
  match e.exchange? with
  | some ⟨.registry path link, reply⟩ => (Screen.Registry.ofReply path reply).toOption.map fun r => (r, link)
  | _ => none

/-- A registry comes that can be read, and there is one already. -/
def Raced (es : List (openings c).Event) : Prop :=
  ∃ e ∈ es, (loaded? e).isSome = true ∧ e.before.state.part.registry ≠ none

structure Still (e : (openings c).Event) : Prop where
  active : e.after.state.stage.active = e.before.state.stage.active
  generation : e.after.state.stage.generation = e.before.state.stage.generation

structure Opens (e : (openings c).Event) (registry : Screen.Registry) (link : Option String) : Prop where
  kept : e.after.state.part.registry = some registry
  shown : let screen := first c.navigation registry link e.before.state.part.memory
    registry.contains screen = true → e.after.state.stage.active = some screen ∧
      e.after.state.stage.generation = e.before.state.stage.generation + 1
  refused : registry.contains (first c.navigation registry link e.before.state.part.memory) = false → Still e

/-- The registry is read once and kept for good, and one call shows the first screen: once all have returned
and one of them well, there is a step in which a call that returned well opens, and no other shows a screen. -/
structure LoadedOnce (es : List (openings c).Event) (f : (openings c).Flight) : Prop where
  read : (es.filterMap loaded?).length ≤ 1
  kept : ∀ e ∈ es, ∀ registry, e.before.state.part.registry = some registry →
    e.after.state.part.registry = some registry
  first : f.Quiet → (∃ course ∈ f.courses, course.standing = .done (.ok ())) →
    ∃ later e earlier registry link, es = later ++ e :: earlier ∧ Opens e registry link ∧
      (∃ course, f.courses[e.number]? = some course ∧ course.standing = .done (.ok ())) ∧
      ∀ e' ∈ later ++ earlier, Still e'

inductive Open : Progress Opening (Except LoadFault Unit) → Prop
  | done : Open (.done (.ok ()))
  | waiting (w : Fitting) : Open (.waiting (.regions w))

inductive Shut : Progress Opening (Except LoadFault Unit) → Prop
  | failed (cause : LoadFault) : Shut (.done (.error cause))
  | waiting (path : String) (link : Option String) : Shut (.waiting (.registry path link))

theorem Open.not_shut {p : Progress Opening (Except LoadFault Unit)} (h : Open p) : ¬ Shut p := by
  intro hshut
  cases h <;> cases hshut

structure Idle (e : (openings c).Event) : Prop where
  loaded : loaded? e = none
  state : e.after.state = e.before.state
  shut : ∀ course, e.before.courses[e.number]? = some course → Shut course.standing

inductive Came (e : (openings c).Event) (course : (openings c).Course) : Prop
  | nothing : Idle e → Shut course.standing → Came e course
  | known : Idle e → e.before.state.part.registry ≠ none → Open course.standing → Came e course
  | opened {registry : Screen.Registry} {link : Option String} : loaded? e = some (registry, link) →
      Opens e registry link → Open course.standing → Came e course
  | settled {before : (openings c).Course} {w : Fitting} : loaded? e = none →
      e.before.courses[e.number]? = some before → before.standing = .waiting (.regions w) → Still e →
      e.after.state.part.registry = e.before.state.part.registry → Open course.standing → Came e course

variable {allowed : Option String → Prop} {answers : (r : Request) → r.Reply → Prop} {e : (openings c).Event}

theorem opens_enter {registry : Screen.Registry} {link : Option String}
    (h : e.after.state = (enter c.navigation registry link e.before.state).state) : Opens e registry link := by
  have hentered := entered_enter c.navigation registry link e.before.state
  obtain ⟨hgeneration, hactive, -⟩ := Stage.ensureAll_same e.before.state.stage registry.ids
  cases hentered with
  | @moved going hin hmoved hstate _ =>
    have hafter : e.after.state = going.state := h.trans hstate
    have hraised : e.after.state.stage.generation = e.before.state.stage.generation + 1 := by
      rw [hafter, hmoved.generation]
      exact congrArg (· + 1) hgeneration
    refine ⟨?_, fun _ => ⟨?_, hraised⟩, fun hout => ?_⟩
    · rw [hafter, hmoved.registry]
      rfl
    · rw [hafter]
      exact hmoved.active
    · rw [hin] at hout
      cases hout
  | refused hin hstate _ =>
    have hafter : e.after.state = entered registry e.before.state := h.trans hstate
    refine ⟨?_, fun hknown => ?_, fun _ => ⟨?_, ?_⟩⟩
    · rw [hafter]
      rfl
    · rw [hin] at hknown
      cases hknown
    · rw [hafter]
      exact hactive
    · rw [hafter]
      exact hgeneration

theorem open_enter (registry : Screen.Registry) (link : Option String) (s : Staged Navigation) :
    Open (enter c.navigation registry link s).value := by
  rw [(enter_eq c.navigation registry link s).2]
  cases (go c.navigation _ (entered registry s)).value with
  | done screen => exact .done
  | waiting w => exact .waiting w

theorem came_of_happens (he : e.Happens allowed answers) :
    ∃ course, e.course? = some course ∧ Came e course := by
  cases he with
  | @begin f link _ =>
    refine ⟨_, Protocol.Event.course?_begun (P := openings c) f link, ?_⟩
    have hstate := start_state c link f.state
    cases hr : f.state.part.registry with
    | none =>
      have hvalue : (start c link f.state).value = .waiting (.registry c.content.registryPath link) := by
        simp only [start, Act.bind_get, hr, Act.pure_apply]
      refine .nothing ⟨rfl, hstate, by simp [Protocol.Event.begun]⟩ ?_
      show Shut (start c link f.state).value
      rw [hvalue]
      exact .waiting _ link
    | some registry =>
      have hvalue : (start c link f.state).value = .done (.ok ()) := by
        simp only [start, Act.bind_get, hr, Act.pure_apply]
      refine .known ⟨rfl, hstate, by simp [Protocol.Event.begun]⟩ (by simp [Protocol.Event.begun, hr]) ?_
      show Open (start c link f.state).value
      rw [hvalue]
      exact .done
  | @resume s before after course w reply hw _ _ =>
    refine ⟨_, Protocol.Event.course?_resumed (P := openings c) s before course after w reply, ?_⟩
    cases w with
    | registry path link =>
      cases hloaded : Screen.Registry.ofReply path reply with
      | error cause =>
        have hresume := Opening.resume_of_error c link hloaded
        refine .nothing ⟨?_, ?_, ?_⟩ ?_
        · simp [loaded?, Protocol.Event.resumed, hloaded, Except.toOption]
        · show ((Opening.registry path link).resume c reply s).state = s
          rw [hresume]
          rfl
        · simpa [Protocol.Event.resumed, hw] using Shut.waiting path link
        · show Shut ((Opening.registry path link).resume c reply s).value
          rw [hresume]
          exact .failed cause
      | ok registry =>
        have hresume := Opening.resume_of_ok c link hloaded
        have hcame : loaded? (Protocol.Event.resumed (P := openings c) s before course after
            (.registry path link) reply) = some (registry, link) := by
          simp [loaded?, Protocol.Event.resumed, hloaded, Except.toOption]
        refine .opened hcame (opens_enter ?_) ?_
        · show ((Opening.registry path link).resume c reply s).state = _
          rw [hresume]
          rfl
        · show Open ((Opening.registry path link).resume c reply s).value
          rw [hresume]
          exact open_enter registry link s
    | regions w =>
      obtain ⟨hactive, hgeneration, hregistry, -⟩ := settle_same w reply s
      exact .settled rfl (by simp [Protocol.Event.resumed]) hw ⟨hactive, hgeneration⟩ hregistry .done

variable {es : List (openings c).Event} {f : (openings c).Flight}

structure Quietly (e : (openings c).Event) : Prop where
  loaded : loaded? e = none
  registry : e.after.state.part.registry = e.before.state.part.registry
  still : Still e

theorem Idle.quietly (h : Idle e) : Quietly e := by
  have hstate := h.state
  exact ⟨h.loaded, by rw [hstate], by rw [hstate], by rw [hstate]⟩

/-- Until a registry has come no call has opened; then the one that it came to has, and nothing else is shown. -/
inductive Reached (es : List (openings c).Event) (f : (openings c).Flight) : Prop
  | shut : f.state.part.registry = none → (∀ e ∈ es, Quietly e) →
      (∀ (n : Nat) (course : (openings c).Course), f.courses[n]? = some course → Shut course.standing) →
      Reached es f
  | opened {later earlier : List (openings c).Event} {e : (openings c).Event} {registry : Screen.Registry}
      {link : Option String} {course : (openings c).Course} : es = later ++ e :: earlier →
      loaded? e = some (registry, link) → e.before.state.part.registry = none → Opens e registry link →
      (∀ e' ∈ later ++ earlier, Quietly e') → f.state.part.registry ≠ none →
      f.courses[e.number]? = some course → Open course.standing → Reached es f

theorem reached_step (h : Reached es e.before) (he : e.Happens allowed answers)
    (hfirst : ¬ ((loaded? e).isSome = true ∧ e.before.state.part.registry ≠ none)) :
    Reached (e :: es) e.after := by
  obtain ⟨course, hcourse, hcame⟩ := came_of_happens he
  have hcourse : e.after.courses[e.number]? = some course := hcourse
  cases h with
  | shut hnone hquiet hshut =>
    cases hcame with
    | nothing hidle hstanding =>
      refine .shut ?_ (List.forall_mem_cons.2 ⟨hidle.quietly, hquiet⟩) fun n course' hn => ?_
      · rw [hidle.state]
        exact hnone
      · by_cases hne : n = e.number
        · rw [hne, hcourse] at hn
          cases hn
          exact hstanding
        · rw [he.courses_of_ne hne] at hn
          exact hshut n course' hn
    | known _ hregistry _ => exact absurd hnone hregistry
    | @opened registry link hloaded hopens hstanding =>
      have hsome : e.after.state.part.registry ≠ none := by simp [hopens.kept]
      have hes : e :: es = [] ++ e :: es := rfl
      exact .opened hes hloaded hnone hopens hquiet hsome hcourse hstanding
    | settled _ hbefore hstanding _ _ _ =>
      have hshut := hshut _ _ hbefore
      rw [hstanding] at hshut
      cases hshut
  | @opened later earlier e₀ registry link course₀ hes hloaded hnone hopens hquiet hregistry hcourse₀ hopen =>
    have hregistry' : loaded? e = none := by
      cases hl : loaded? e with
      | none => rfl
      | some found => exact absurd ⟨by simp [hl], hregistry⟩ hfirst
    have hkept : Quietly e ∧ (e.number = e₀.number → Open course.standing) := by
      cases hcame with
      | nothing hidle hstanding =>
        refine ⟨hidle.quietly, fun hsame => ?_⟩
        rw [← hsame] at hcourse₀
        exact absurd (hidle.shut _ hcourse₀) hopen.not_shut
      | known hidle _ hstanding => exact ⟨hidle.quietly, fun _ => hstanding⟩
      | opened hloaded' _ _ =>
        rw [hregistry'] at hloaded'
        cases hloaded'
      | settled hloaded' _ _ hstill hsame hstanding => exact ⟨⟨hloaded', hsame, hstill⟩, fun _ => hstanding⟩
    obtain ⟨hquietly, hstanding⟩ := hkept
    have hes' : e :: es = (e :: later) ++ e₀ :: earlier := by rw [hes, List.cons_append]
    have hquiet' : ∀ e' ∈ (e :: later) ++ earlier, Quietly e' := List.forall_mem_cons.2 ⟨hquietly, hquiet⟩
    have hsome : e.after.state.part.registry ≠ none := by rwa [hquietly.registry]
    by_cases hne : e₀.number = e.number
    · rw [← hne] at hcourse
      exact .opened hes' hloaded hnone hopens hquiet' hsome hcourse (hstanding hne.symm)
    · rw [← he.courses_of_ne hne] at hcourse₀
      exact .opened hes' hloaded hnone hopens hquiet' hsome hcourse₀ hopen

theorem reached_of_trace {s : Staged Navigation} (hs : s.part.registry = none)
    (h : (openings c).Trace allowed answers ⟨s, []⟩ es f) (hraced : ¬ Raced es) : Reached es f := by
  induction h with
  | start => exact .shut hs (by simp) (by simp)
  | @step es e _ he ih =>
    have hrest : ¬ Raced es := by
      rintro ⟨e', he', hloaded⟩
      exact hraced ⟨e', List.mem_cons_of_mem e he', hloaded⟩
    exact reached_step (ih hrest) he fun hloaded => hraced ⟨e, List.mem_cons_self, hloaded⟩

/-- A registry is there because it came. -/
theorem exists_loaded {s : Staged Navigation} (hs : s.part.registry = none)
    (h : (openings c).Trace allowed answers ⟨s, []⟩ es f) (hf : f.state.part.registry ≠ none) :
    ∃ e ∈ es, (loaded? e).isSome = true := by
  induction h with
  | start => exact absurd hs hf
  | @step es e _ he ih =>
    have hearlier : e.before.state.part.registry ≠ none → ∃ e' ∈ e :: es, (loaded? e').isSome = true := by
      intro hbefore
      obtain ⟨e', he', hloaded⟩ := ih hbefore
      exact ⟨e', List.mem_cons_of_mem e he', hloaded⟩
    obtain ⟨course, -, hcame⟩ := came_of_happens he
    cases hcame with
    | nothing hidle _ => exact hearlier (by rwa [← hidle.state])
    | known _ hbefore _ => exact hearlier hbefore
    | opened hloaded _ _ => exact ⟨e, List.mem_cons_self, by simp [hloaded]⟩
    | settled _ _ _ _ hsame _ => exact hearlier (by rwa [← hsame])

theorem LoadedOnce.of_reached (h : Reached es f) : LoadedOnce es f := by
  cases h with
  | shut hnone hquiet hshut =>
    refine ⟨?_, fun e he registry hbefore => ?_, fun _ hdone => ?_⟩
    · have hnothing : es.filterMap loaded? = [] := List.filterMap_eq_nil_iff.2 fun e he => (hquiet e he).loaded
      simp [hnothing]
    · rw [(hquiet e he).registry]
      exact hbefore
    · obtain ⟨course, hmem, hstanding⟩ := hdone
      obtain ⟨n, hn⟩ := List.mem_iff_getElem?.1 hmem
      have hs := hshut n course hn
      rw [hstanding] at hs
      cases hs
  | @opened later earlier e registry link course hes hloaded hnone hopens hquiet hregistry hcourse hopen =>
    have hnothing : ∀ e' ∈ later ++ earlier, loaded? e' = none := fun e' he' => (hquiet e' he').loaded
    refine ⟨?_, fun e' he' registry' hbefore => ?_, fun hf _ => ?_⟩
    · have hlater : later.filterMap loaded? = [] :=
        List.filterMap_eq_nil_iff.2 fun e' he' => hnothing e' (List.mem_append_left _ he')
      have hearlier : earlier.filterMap loaded? = [] :=
        List.filterMap_eq_nil_iff.2 fun e' he' => hnothing e' (List.mem_append_right _ he')
      simp [hes, hlater, hearlier, hloaded]
    · rw [hes] at he'
      rcases List.mem_append.1 he' with hl | hr
      · rw [(hquiet e' (List.mem_append_left _ hl)).registry]
        exact hbefore
      · rcases List.mem_cons.1 hr with rfl | hr
        · rw [hnone] at hbefore
          cases hbefore
        · rw [(hquiet e' (List.mem_append_right _ hr)).registry]
          exact hbefore
    · have hdone := hf course (List.mem_of_getElem? hcourse)
      have hok : course.standing = .done (.ok ()) := by
        cases hstanding : course.standing with
        | done result =>
          rw [hstanding] at hopen
          cases hopen
          rfl
        | waiting w =>
          rw [hstanding] at hdone
          cases hdone
      exact ⟨later, e, earlier, registry, link, hes, hopens, ⟨course, hcourse, hok⟩,
        fun e' he' => (hquiet e' he').still⟩

/-- A registry that comes when there is one already is the second that was read. -/
theorem not_raced_of_read {s : Staged Navigation} (hs : s.part.registry = none)
    (h : (openings c).Trace allowed answers ⟨s, []⟩ es f) (hread : (es.filterMap loaded?).length ≤ 1) :
    ¬ Raced es := by
  rintro ⟨e, he, hloaded, hbefore⟩
  obtain ⟨later, earlier, rfl⟩ := List.append_of_mem he
  obtain ⟨e', he', hloaded'⟩ := exists_loaded hs h.cut.1 hbefore
  obtain ⟨found, hfound⟩ := Option.isSome_iff_exists.1 hloaded
  obtain ⟨found', hfound'⟩ := Option.isSome_iff_exists.1 hloaded'
  have hearlier : 0 < (earlier.filterMap loaded?).length :=
    List.length_pos_of_mem (List.mem_filterMap.2 ⟨e', he', hfound'⟩)
  simp [hfound] at hread
  omega

/-- First navigations that overlap load the registry once, and show one first screen, exactly as long as no
call is given a registry that it need not have asked for. -/
theorem loaded_once_unless_raced {s : Staged Navigation} (hs : s.part.registry = none)
    (h : (openings c).Trace allowed answers ⟨s, []⟩ es f) : LoadedOnce es f ↔ ¬ Raced es := by
  constructor
  · intro honce
    exact not_raced_of_read hs h honce.read
  · intro hraced
    exact .of_reached (reached_of_trace hs h hraced)

end Events

/-- A source with a registry of one screen, which has regions. -/
def oneScreen (screen : String) : (r : Request) → r.Reply
  | .document path =>
    if path = "sec/screen_registry.json" then
      .ok (.object [("start_screen", .string screen),
        ("screens", .object [(screen, .object [("hitboxes", .string "doors.json")])])])
    else .error (.notFound path)
  | .place _ => .ok none
  | .savePlace _ _ => .ok ()
  | .turn => ()

/-- The second call comes when the registry is there, and while the first one waits for regions. -/
def inTurn : List (Protocol.Move (Option String)) := [.begin none, .resume 0, .begin none, .resume 0]

def hallInTurn : (openings {}).Flight :=
  Protocol.Flight.play (P := openings {}) (oneScreen "hall") ⟨⟨{}, {}⟩, []⟩ inTurn

def hallEvents : List (openings {}).Event :=
  Protocol.Flight.events (P := openings {}) (oneScreen "hall") ⟨⟨{}, {}⟩, []⟩ inTurn

instance {c : Settings} (es : List (openings c).Event) : Decidable (Raced es) :=
  inferInstanceAs (Decidable (∃ e ∈ es, (loaded? e).isSome = true ∧ e.before.state.part.registry ≠ none))

theorem loaded_once_unless_raced_in_turn :
    (openings {}).Trace (fun _ => True) (fun _ _ => True) ⟨⟨{}, {}⟩, []⟩ hallEvents hallInTurn ∧
    LoadedOnce hallEvents hallInTurn ∧
    hallInTurn.courses.map (·.standing) = [.done (.ok ()), .done (.ok ())] ∧
    hallInTurn.state.stage.active = some ⟨"hall"⟩ ∧ hallInTurn.state.stage.generation = 1 := by
  have htrace : (openings {}).Trace (fun _ => True) (fun _ _ => True) ⟨⟨{}, {}⟩, []⟩ hallEvents hallInTurn :=
    Protocol.trace_script (fun _ => trivial) fun _ _ => trivial
  have huncrossed : ¬ Raced hallEvents := by decide +kernel
  refine ⟨htrace, (loaded_once_unless_raced rfl htrace).2 huncrossed, ?_⟩
  decide +kernel

/-- Two calls have asked for the registry when it comes. -/
def bothAsked : (openings {}).Flight :=
  Protocol.Flight.play (P := openings {}) (oneScreen "hall") ⟨⟨{}, {}⟩, []⟩
    [.begin none, .begin none, .resume 0, .resume 0]

/-- What comes to the second is another registry. -/
def bothAnswered : (openings {}).Flight :=
  Protocol.Flight.play (P := openings {}) (oneScreen "attic") bothAsked [.resume 1, .resume 1]

def bothEvents : List (openings {}).Event :=
  Protocol.Flight.events (P := openings {}) (oneScreen "attic") bothAsked [.resume 1, .resume 1] ++
    Protocol.Flight.events (P := openings {}) (oneScreen "hall") ⟨⟨{}, {}⟩, []⟩
      [.begin none, .begin none, .resume 0, .resume 0]

/-- Both return well, the registry is read twice and replaced, and either call shows its first screen. -/
theorem registry_replaced_when_raced :
    (openings {}).Trace (fun _ => True) (fun _ _ => True) ⟨⟨{}, {}⟩, []⟩ bothEvents bothAnswered ∧
    bothAnswered.courses.map (·.standing) = [.done (.ok ()), .done (.ok ())] ∧
    (bothEvents.filterMap loaded?).length = 2 ∧
    bothAsked.state.stage.active = some ⟨"hall"⟩ ∧ bothAnswered.state.stage.active = some ⟨"attic"⟩ ∧
    bothAnswered.state.stage.generation = 2 ∧
    bothAsked.state.part.registry.map (·.start) = some ⟨"hall"⟩ ∧
    bothAnswered.state.part.registry.map (·.start) = some ⟨"attic"⟩ ∧
    ¬ LoadedOnce bothEvents bothAnswered := by
  have htrace : (openings {}).Trace (fun _ => True) (fun _ _ => True) ⟨⟨{}, {}⟩, []⟩ bothEvents bothAnswered :=
    Protocol.trace_events (fun _ => trivial) (fun _ _ => trivial)
      (Protocol.trace_script (fun _ => trivial) fun _ _ => trivial)
  have hread : (bothEvents.filterMap loaded?).length = 2 := by decide +kernel
  refine ⟨htrace, by decide +kernel, hread, ?_⟩
  refine ⟨by decide +kernel, by decide +kernel, by decide +kernel, by decide +kernel, by decide +kernel, ?_⟩
  intro honce
  have hle := honce.read
  omega

end Gamebook.Navigation
