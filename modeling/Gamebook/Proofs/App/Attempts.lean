import Gamebook.Proofs.App.Aside
import Gamebook.Proofs.App.Delivery
import Gamebook.Proofs.Trace

/-! Boots on their own. Only one has its turn, and until its registry has come the player is as it was; then it
goes on to the end, and the boots after it find nothing left to do. What a boot does once it has its registry is
said by `launched_registry` and `launched_resume`, how far the boots of a flight are by `Phase`; `advances` is the
step of any of them, and `boots_attempted` what comes of a whole run. -/
namespace Gamebook.App

open Act

variable {c : Settings} {first : Catalog} {a : App}

def frame (a : App) : Roster Collaborator × Navigation × Bool × Bool :=
  (a.roster, a.navigation, a.booted, a.booting)

theorem untold_frame (c : Settings) : Untold c frame where
  taken _ _ := rfl
  enter _ := fun _ => rfl

theorem keeps_frame_resumePump (w : Telling) (reply : w.request.Reply) : Keeps frame (resumePump c w reply) :=
  fun a => (untold_frame c).resumePump w reply a

structure Underway (a : App) : Prop where
  booting : a.booting = true
  booted : a.booted = false
  registry : a.navigation.registry ≠ none

def Manned (a : App) : Prop := ∀ entry ∈ a.roster, entry.status ≠ .pending

theorem manned_of_crewOf {status : Roster.Status} (hroster : a.roster = crewOf status true)
    (hstatus : status ≠ .pending) : Manned a := by
  intro entry hentry
  rw [hroster] at hentry
  simp only [crewOf, List.mem_cons, List.not_mem_nil, or_false] at hentry
  rcases hentry with rfl | rfl
  · exact hstatus
  · simp

/-- The stages of a boot that has its registry, with what it relies on at each. -/
inductive Aboard (a : App) : Booting → Prop
  | regions (w : Fitting) : a.roster = crewOf .pending false → Aboard a (.opening (.regions w))
  | starting {w : Starting} : a.roster = crewOf .pending false → w.position = 0 → Aboard a (.starting w)
  | pumping (w : Telling) : Manned a → Aboard a (.pumping w)

structure Booted (a : App) : Prop where
  booting : a.booting = false
  booted : a.booted = true
  registry : a.navigation.registry ≠ none
  manned : Manned a

inductive Launched (made : Made App (Progress Booting (Except LoadFault Unit))) : Prop
  | under {w : Booting} : Underway made.state → Aboard made.state w → made.value = .waiting w → Launched made
  | through : Booted made.state → made.value = .done (.ok ()) → Launched made

theorem Launched.of_same {made made' : Made App (Progress Booting (Except LoadFault Unit))} (h : Launched made)
    (hstate : made'.state = made.state) (hvalue : made'.value = made.value) : Launched made' := by
  cases h with
  | under hunder haboard hwaiting => exact .under (hstate ▸ hunder) (hstate ▸ haboard) (hvalue.trans hwaiting)
  | through hbooted hdone => exact .through (hstate ▸ hbooted) (hvalue.trans hdone)

theorem launched_pumped {x : Act App (Progress Telling Unit)} (hx : Keeps frame x) (hunder : Underway a)
    (hmanned : Manned a) {made : Made App (Progress Booting (Except LoadFault Unit))}
    (hdone : (x a).value = .done () →
      made.state = { (x a).state with booted := true, booting := false } ∧ made.value = .done (.ok ()))
    (hwaiting : ∀ w, (x a).value = .waiting w → made.state = (x a).state ∧ made.value = .waiting (.pumping w)) :
    Launched made := by
  obtain ⟨hroster, hnavigation, hbooted, hbooting⟩ : (x a).state.roster = a.roster ∧
      (x a).state.navigation = a.navigation ∧ (x a).state.booted = a.booted ∧
      (x a).state.booting = a.booting := by
    simpa [frame] using hx a
  cases hv : (x a).value with
  | done =>
    obtain ⟨hstate, hvalue⟩ := hdone hv
    refine .through ⟨?_, ?_, ?_, ?_⟩ hvalue
    · rw [hstate]
    · rw [hstate]
    · rw [hstate, hnavigation]
      exact hunder.registry
    · rw [hstate]
      intro entry hentry
      exact hmanned entry (hroster ▸ hentry)
  | waiting w =>
    obtain ⟨hstate, hvalue⟩ := hwaiting w hv
    refine .under ⟨?_, ?_, ?_⟩ (.pumping w ?_) hvalue
    · rw [hstate, hbooting]
      exact hunder.booting
    · rw [hstate, hbooted]
      exact hunder.booted
    · rw [hstate, hnavigation]
      exact hunder.registry
    · rw [hstate]
      intro entry hentry
      exact hmanned entry (hroster ▸ hentry)

theorem launched_bootStarted (hunder : Underway a) (hmanned : Manned a) (failed : Nat) :
    Launched (bootStarted c failed a) := by
  refine launched_pumped (untold_frame c).pump hunder hmanned (fun hv => ?_) (fun w hv => ?_)
  all_goals
    by_cases hfailed : 0 < failed <;>
      simp [bootStarted, hfailed, bind_apply, hv, ready_apply]

theorem launched_bootOpened (hunder : Underway a) (hroster : a.roster = crewOf .pending false) :
    Launched (bootOpened c (.ok ()) a) := by
  have hstarts := starts_startAll (c := c) hroster
  simp only [bootOpened, bind_apply]
  generalize startAll c a = made at hstarts ⊢
  cases hstarts with
  | waiting notices hw => exact .under ⟨hunder.booting, hunder.booted, hunder.registry⟩ (.starting hroster rfl) rfl
  | @done status failed notices hstatus =>
    have hstarted : Underway { a with roster := crewOf status true } :=
      ⟨hunder.booting, hunder.booted, hunder.registry⟩
    exact (launched_bootStarted (c := c) hstarted (manned_of_crewOf rfl hstatus) failed).of_same rfl rfl

theorem launched_registry {path : String} {link : Option String} {reply : Except SourceFault Json.Value}
    {registry : Screen.Registry} (hloaded : Screen.Registry.ofReply path reply = .ok registry)
    (hbooting : a.booting = true) (hbooted : a.booted = false) (hroster : a.roster = crewOf .pending false) :
    Launched (Booting.resume c (.opening (.registry path link)) reply a) := by
  have hx := Opening.resume_of_ok c link hloaded
  have hentered := Navigation.entered_enter c.navigation registry link ⟨a.stage, a.navigation⟩
  have hunder : Underway (navigating (Navigation.enter c.navigation registry link) a).state := by
    refine ⟨hbooting, hbooted, ?_⟩
    show (Navigation.enter c.navigation registry link ⟨a.stage, a.navigation⟩).state.part.registry ≠ none
    cases hentered with
    | moved _ hmoved hstate _ =>
      rw [hstate, hmoved.registry]
      simp [Navigation.entered]
    | refused _ hstate _ =>
      rw [hstate]
      simp [Navigation.entered]
  have hvalue := (Navigation.enter_eq c.navigation registry link ⟨a.stage, a.navigation⟩).2
  generalize (Navigation.go c.navigation _ (Navigation.entered registry ⟨a.stage, a.navigation⟩)).value = going
    at hvalue
  have hvalue : (navigating (Navigation.enter c.navigation registry link) a).value =
    going.map Opening.regions fun _ => .ok () := hvalue
  simp only [Booting.resume, hx, bind_apply]
  rw [hvalue]
  cases going with
  | done screen => exact (launched_bootOpened hunder hroster).of_same rfl rfl
  | waiting w => exact .under hunder (.regions w hroster) rfl

theorem launched_resume (hunder : Underway a) {w : Booting} (haboard : Aboard a w) (reply : w.request.Reply) :
    Launched (w.resume c reply a) := by
  cases haboard with
  | regions f hroster =>
    obtain ⟨-, -, hregistry, -⟩ := Navigation.settle_same f reply ⟨a.stage, a.navigation⟩
    have hsettled : Underway (navigating (Navigation.settle f reply) a).state := by
      refine ⟨hunder.booting, hunder.booted, ?_⟩
      show (Navigation.settle f reply ⟨a.stage, a.navigation⟩).state.part.registry ≠ none
      rw [hregistry]
      exact hunder.registry
    exact (launched_bootOpened (c := c) hsettled hroster).of_same rfl rfl
  | starting hroster hposition =>
    obtain ⟨status, failed, notices, hstatus, hstarted⟩ := resumeStartAll_eq (c := c) hroster hposition reply
    simp only [Booting.resume, bind_apply, hstarted]
    refine (launched_bootStarted (c := c) ?_ (manned_of_crewOf rfl hstatus) failed).of_same rfl rfl
    exact ⟨hunder.booting, hunder.booted, hunder.registry⟩
  | pumping w hmanned =>
    refine launched_pumped (x := resumePump c w reply) ?_ hunder hmanned (fun hv => ?_) (fun w' hv => ?_)
    · exact keeps_frame_resumePump w reply
    · simp [Booting.resume, bind_apply, hv, ready_apply]
    · simp [Booting.resume, bind_apply, hv]

def Moored (p : Progress Waiting Answer) : Prop := ∀ w, p = .waiting w → ∃ link, w = .booting (.turn link)

/-- A boot that does not have its registry. -/
inductive Ashore : Progress Waiting Answer → Prop
  | turn (link : Option String) : Ashore (.waiting (.booting (.turn link)))
  | asking (path : String) (link : Option String) : Ashore (.waiting (.booting (.opening (.registry path link))))
  | done (result : Except LoadFault Unit) : Ashore (.done (.loaded result))

/-- A step of a boot that goes no further than asking for the registry, and changes nothing else. -/
structure Barred (e : (protocol c).Event) : Prop where
  state : { e.after.state with booting := false } = { e.before.state with booting := false }
  ashore : ∃ course, e.course? = some course ∧ Ashore course.standing

structure TakesTurn (e : (protocol c).Event) : Prop where
  before : e.before.state.booting = false
  after : e.after.state.booting = true

/-- A step in which a boot that asked for the registry is not given any. -/
def Denied (e : (protocol c).Event) (cause : LoadFault) : Prop :=
  ∃ link reply, e.exchange? = some ⟨.booting (.opening (.registry c.content.registryPath link)), reply⟩ ∧
    Screen.Registry.ofReply c.content.registryPath reply = .error cause

/-- A boot fails if there is no registry for it, and leaves the player as it was when the boot had its turn; one
call at most goes further than asking for the registry; and one that succeeds leaves a player that is booted. -/
structure Attempted (es : List (protocol c).Event) : Prop where
  failed : ∀ later e earlier cause, es = later ++ e :: earlier → e.answer? = some (.loaded (.error cause)) →
    Denied e cause ∧ ∃ e₀ ∈ earlier, e₀.number = e.number ∧ TakesTurn e₀ ∧ e.after.state = e₀.before.state
  single : ∃ n, ∀ e ∈ es, e.number ≠ n → Barred e
  loaded : ∀ e ∈ es, e.answer? = some (.loaded (.ok ())) → Booted e.after.state

def MooredBut (n : Nat) (f : (protocol c).Flight) : Prop :=
  ∀ (m : Nat) (course : (protocol c).Course), m ≠ n → f.courses[m]? = some course → Moored course.standing

def AllMoored (f : (protocol c).Flight) : Prop :=
  ∀ (m : Nat) (course : (protocol c).Course), f.courses[m]? = some course → Moored course.standing

inductive Phase (first : Catalog) (es : List (protocol c).Event) (f : (protocol c).Flight) : Prop
  | idle : f.state = ofCatalog first → (∀ e ∈ es, Barred e) → AllMoored f → Phase first es f
  | asking {course : (protocol c).Course} {e : (protocol c).Event} {link : Option String} :
      f.state = { ofCatalog first with booting := true } → (∀ e ∈ es, Barred e) → e ∈ es → TakesTurn e →
      e.before.state = ofCatalog first → f.courses[e.number]? = some course →
      course.standing = .waiting (.booting (.opening (.registry c.content.registryPath link))) →
      MooredBut e.number f → Phase first es f
  | underway {n : Nat} {course : (protocol c).Course} {w : Booting} : Underway f.state → Aboard f.state w →
      (∀ e ∈ es, e.number ≠ n → Barred e) → f.courses[n]? = some course →
      course.standing = .waiting (.booting w) → MooredBut n f → Phase first es f
  | booted {n : Nat} : Booted f.state → (∀ e ∈ es, e.number ≠ n → Barred e) → AllMoored f → Phase first es f

structure Advances (first : Catalog) (es : List (protocol c).Event) (e : (protocol c).Event) : Prop where
  phase : Phase first (e :: es) e.after
  failed : ∀ cause, e.answer? = some (.loaded (.error cause)) →
    Denied e cause ∧ ∃ e₀ ∈ es, e₀.number = e.number ∧ TakesTurn e₀ ∧ e.after.state = e₀.before.state
  loaded : e.answer? = some (.loaded (.ok ())) → Booted e.after.state

variable {answers : (r : Request) → r.Reply → Prop} {es : List (protocol c).Event} {e : (protocol c).Event}
variable {course : (protocol c).Course} {f : (protocol c).Flight}

def Boots (call : Call) : Prop := ∃ link, call = .boot link

/-- What a call to boot does in one step: it waits for its turn, it has its turn, or it had it. -/
inductive Turns (e : (protocol c).Event) (course : (protocol c).Course) : Prop
  | waits (link : Option String) : e.before.state.booting = true → e.before.courses[e.number]? = none →
      e.after.state = e.before.state → course.standing = .waiting (.booting (.turn link)) → Turns e course
  | takes (link : Option String) : e.before.state.booting = false →
      e.after.state = (takeTurn c link e.before.state).state →
      course.standing = (takeTurn c link e.before.state).value.map .booting .loaded → Turns e course
  | goes {before : (protocol c).Course} {w : Waiting} (reply : w.request.Reply) :
      e.exchange? = some ⟨w, reply⟩ → e.before.courses[e.number]? = some before →
      before.standing = .waiting w → (∀ link, w ≠ .booting (.turn link)) → e.after.state = (resume c w reply e.before.state).state →
      course.standing = (resume c w reply e.before.state).value → Turns e course

theorem turns_of_took (h : e.Took Boots answers course) : Turns e course := by
  cases h with
  | begun hboots hnone hstate hstanding =>
    obtain ⟨link, rfl⟩ := hboots
    have hstate : e.after.state = (boot c link e.before.state).state := hstate
    have hstanding : course.standing = (boot c link e.before.state).value.map .booting .loaded := hstanding
    rw [boot_eq] at hstate hstanding
    cases hbooting : e.before.state.booting with
    | true =>
      rw [hbooting, if_pos rfl] at hstate hstanding
      exact .waits link hbooting hnone hstate hstanding
    | false =>
      rw [hbooting, if_neg Bool.false_ne_true] at hstate hstanding
      exact .takes link hbooting hstate hstanding
  | @resumed before w reply hexchange hcourse hw hready _ hstate hstanding =>
    by_cases hturn : ∃ link, w = .booting (.turn link)
    · obtain ⟨link, rfl⟩ := hturn
      exact .takes link (turn_of_ready hready rfl) hstate hstanding
    · exact .goes reply hexchange hcourse hw (fun link hlink => hturn ⟨link, hlink⟩) hstate hstanding

theorem AllMoored.but (h : AllMoored f) (n : Nat) : MooredBut n f := fun m course _ hcourse => h m course hcourse

theorem MooredBut.all {n : Nat} (h : MooredBut n f) (hcourse : f.courses[n]? = some course)
    (hmoored : Moored course.standing) : AllMoored f := by
  intro m other hother
  by_cases hm : m = n
  · subst hm
    obtain rfl : course = other := by simpa [hcourse] using hother
    exact hmoored
  · exact h m other hm hother

theorem MooredBut.after (h : MooredBut e.number e.before) (he : e.Happens Boots answers) :
    MooredBut e.number e.after := by
  intro m other hm hother
  rw [he.courses_of_ne hm] at hother
  exact h m other hm hother

theorem MooredBut.after_of_ne {n : Nat} (h : MooredBut n e.before) (he : e.Happens Boots answers)
    (hcourse : e.after.courses[e.number]? = some course) (hmoored : Moored course.standing) :
    MooredBut n e.after := by
  intro m other hm hother
  by_cases hnumber : m = e.number
  · subst hnumber
    obtain rfl : course = other := by simpa [hcourse] using hother
    exact hmoored
  · rw [he.courses_of_ne hnumber] at hother
    exact h m other hm hother

/-- Whoever goes on and did not wait for its turn is the one that is not moored. -/
theorem MooredBut.number_eq {n : Nat} (h : MooredBut n e.before) {before : (protocol c).Course} {w : Waiting}
    (hgoer : e.before.courses[e.number]? = some before) (hwaits : before.standing = .waiting w)
    (hnot : ∀ link, w ≠ .booting (.turn link)) : e.number = n := by
  by_contra hne
  obtain ⟨link, hlink⟩ := h _ _ hne hgoer _ hwaits
  exact hnot link hlink

theorem AllMoored.not_goes (h : AllMoored e.before) {before : (protocol c).Course} {w : Waiting}
    (hgoer : e.before.courses[e.number]? = some before) (hnot : ∀ link, w ≠ .booting (.turn link)) :
    before.standing ≠ .waiting w := by
  intro hwaits
  obtain ⟨link, hlink⟩ := h _ _ hgoer _ hwaits
  exact hnot link hlink

theorem course_of_new (he : e.Happens Boots answers) {n : Nat} (hcourse : e.before.courses[n]? = some course)
    (hnew : e.before.courses[e.number]? = none) : e.after.courses[n]? = some course := by
  have hne : n ≠ e.number := by
    intro hsame
    rw [hsame, hnew] at hcourse
    cases hcourse
  rw [he.courses_of_ne hne]
  exact hcourse

theorem moored_turn (link : Option String) : Moored (.waiting (.booting (.turn link))) := by
  intro w hw
  cases hw
  exact ⟨link, rfl⟩

theorem moored_done (answer : Answer) : Moored (.done answer) := by
  intro w hw
  cases hw

theorem barred_waits {link : Option String} (hcourse : e.after.courses[e.number]? = some course)
    (hstate : e.after.state = e.before.state) (hstanding : course.standing = .waiting (.booting (.turn link))) :
    Barred e :=
  ⟨by rw [hstate], course, hcourse, hstanding ▸ .turn link⟩

theorem takeTurn_ofCatalog (link : Option String) :
    takeTurn c link (ofCatalog first) = ⟨{ ofCatalog first with booting := true }, [],
      .waiting (.opening (.registry c.content.registryPath link))⟩ := rfl

theorem advances_idle (he : e.Happens Boots answers) (hidle : e.before.state = ofCatalog first)
    (hbarred : ∀ e ∈ es, Barred e) (hmoored : AllMoored e.before) : Advances first es e := by
  obtain ⟨course, hcourse, htook⟩ := he.took
  cases turns_of_took htook with
  | waits link hbooting =>
    rw [hidle] at hbooting
    cases hbooting
  | goes reply _ hgoer hwaits hnot => exact absurd hwaits (hmoored.not_goes hgoer hnot)
  | takes link hbooting hstate hstanding =>
    rw [hidle, takeTurn_ofCatalog] at hstate hstanding
    have hhere : Barred e := by
      refine ⟨?_, course, hcourse, ?_⟩
      · rw [hstate, hidle]
      · rw [hstanding]
        exact .asking _ link
    have hnone := Protocol.Event.answer?_of_waiting hcourse hstanding
    refine ⟨.asking hstate (List.forall_mem_cons.2 ⟨hhere, hbarred⟩) List.mem_cons_self ⟨hbooting, ?_⟩ hidle hcourse
      hstanding ((hmoored.but _).after he), ?_, ?_⟩
    · rw [hstate]
    · simp [hnone]
    · simp [hnone]

theorem advances_waits {link : Option String} (hcourse : e.after.courses[e.number]? = some course)
    (hstanding : course.standing = .waiting (.booting (.turn link))) (hphase : Phase first (e :: es) e.after) :
    Advances first es e := by
  have hnone := Protocol.Event.answer?_of_waiting hcourse hstanding
  exact ⟨hphase, by simp [hnone], by simp [hnone]⟩

theorem advances_launched (he : e.Happens Boots answers)
    {made : Made App (Progress Booting (Except LoadFault Unit))} (hlaunched : Launched made)
    (hcourse : e.after.courses[e.number]? = some course) (hstate : e.after.state = made.state)
    (hstanding : course.standing = made.value.map .booting .loaded)
    (hbarred : ∀ e' ∈ es, e'.number ≠ e.number → Barred e') (hmoored : MooredBut e.number e.before) :
    Advances first es e := by
  have hothers : ∀ e' ∈ e :: es, e'.number ≠ e.number → Barred e' :=
    List.forall_mem_cons.2 ⟨fun hne => absurd rfl hne, hbarred⟩
  cases hlaunched with
  | @under w hunder haboard hvalue =>
    rw [← hstate] at hunder haboard
    rw [hvalue] at hstanding
    have hnone := Protocol.Event.answer?_of_waiting hcourse hstanding
    exact ⟨.underway hunder haboard hothers hcourse hstanding (hmoored.after he), by simp [hnone], by simp [hnone]⟩
  | through hbooted hvalue =>
    rw [← hstate] at hbooted
    rw [hvalue] at hstanding
    have hanswer := Protocol.Event.answer?_of_done hcourse hstanding
    have hdone : Moored course.standing := hstanding ▸ moored_done _
    exact ⟨.booted hbooted hothers ((hmoored.after he).all hcourse hdone), by simp [hanswer], fun _ => hbooted⟩

/-- The registry has not come: the player is free again, and as it was. -/
theorem advances_unlaunched (he : e.Happens Boots answers) {e₀ : (protocol c).Event} {cause : LoadFault}
    (hdenied : Denied e cause) (hbefore : e.before.state = { ofCatalog first with booting := true }) (hturn : TakesTurn e₀)
    (hmem : e₀ ∈ es) (hnumber : e₀.number = e.number) (hfree : e₀.before.state = ofCatalog first)
    (hcourse : e.after.courses[e.number]? = some course)
    (hstate : e.after.state = { e.before.state with booting := false })
    (hstanding : course.standing = .done (.loaded (.error cause))) (hbarred : ∀ e ∈ es, Barred e)
    (hmoored : MooredBut e.number e.before) : Advances first es e := by
  have hhere : Barred e := ⟨by rw [hstate], course, hcourse, hstanding ▸ .done _⟩
  have hidle : e.after.state = ofCatalog first := by
    rw [hstate, hbefore]
    rfl
  have hdone : Moored course.standing := hstanding ▸ moored_done _
  have hanswer := Protocol.Event.answer?_of_done hcourse hstanding
  refine ⟨.idle hidle (List.forall_mem_cons.2 ⟨hhere, hbarred⟩) ((hmoored.after he).all hcourse hdone), ?_, ?_⟩
  · intro cause' hcause
    rw [hanswer] at hcause
    cases hcause
    exact ⟨hdenied, e₀, hmem, hnumber, hturn, hidle.trans hfree.symm⟩
  · simp [hanswer]

theorem registry_error {path : String} {link : Option String} {reply : Except SourceFault Json.Value}
    {cause : LoadFault} (hloaded : Screen.Registry.ofReply path reply = .error cause) :
    Booting.resume c (.opening (.registry path link)) reply a =
      ⟨{ a with booting := false }, [.bootFailed cause], .done (.error cause)⟩ := by
  have hx := Opening.resume_of_error c link hloaded
  simp only [Booting.resume, hx]
  rfl

theorem advances_asking {e₀ : (protocol c).Event} {asker : (protocol c).Course} {link : Option String}
    (he : e.Happens Boots answers)
    (hbefore : e.before.state = { ofCatalog first with booting := true }) (hbarred : ∀ e ∈ es, Barred e)
    (hmem : e₀ ∈ es) (hturn : TakesTurn e₀) (hfree : e₀.before.state = ofCatalog first)
    (hasker : e.before.courses[e₀.number]? = some asker)
    (hasking : asker.standing = .waiting (.booting (.opening (.registry c.content.registryPath link))))
    (hmoored : MooredBut e₀.number e.before) : Advances first es e := by
  obtain ⟨course, hcourse, htook⟩ := he.took
  cases turns_of_took htook with
  | waits link _ hnew hstate hstanding =>
    have hhere := barred_waits hcourse hstate hstanding
    have hlater := hmoored.after_of_ne he hcourse (hstanding ▸ moored_turn link)
    exact advances_waits hcourse hstanding (.asking (hstate.trans hbefore)
      (List.forall_mem_cons.2 ⟨hhere, hbarred⟩) (List.mem_cons_of_mem e hmem) hturn hfree
      (course_of_new he hasker hnew) hasking hlater)
  | takes link hbooting =>
    rw [hbefore] at hbooting
    cases hbooting
  | goes reply hexchange hgoer hwaits hnot hstate hstanding =>
    have hsame := hmoored.number_eq hgoer hwaits hnot
    rw [hsame] at hgoer
    obtain rfl := Option.some.inj (hasker.symm.trans hgoer)
    obtain rfl := Progress.waiting.inj (hasking.symm.trans hwaits)
    rw [← hsame] at hmoored
    have hstate : e.after.state =
        (Booting.resume c (.opening (.registry c.content.registryPath link)) reply e.before.state).state := hstate
    have hstanding : course.standing =
        (Booting.resume c (.opening (.registry c.content.registryPath link)) reply e.before.state).value.map
          .booting .loaded := hstanding
    -- the registry comes, or the boot fails
    cases hloaded : Screen.Registry.ofReply c.content.registryPath reply with
    | error cause =>
      rw [registry_error hloaded] at hstate hstanding
      exact advances_unlaunched he ⟨link, reply, hexchange, hloaded⟩ hbefore hturn hmem hsame.symm hfree hcourse
        hstate hstanding hbarred hmoored
    | ok registry =>
      refine advances_launched he (launched_registry hloaded ?_ ?_ ?_) hcourse hstate hstanding
        (fun e' he' _ => hbarred e' he') hmoored
      · rw [hbefore]
      · rw [hbefore]
        rfl
      · rw [hbefore]
        rfl

theorem advances_underway {n : Nat} {runner : (protocol c).Course} {w : Booting} (he : e.Happens Boots answers)
    (hunder : Underway e.before.state) (haboard : Aboard e.before.state w)
    (hbarred : ∀ e ∈ es, e.number ≠ n → Barred e) (hrunner : e.before.courses[n]? = some runner)
    (hrunning : runner.standing = .waiting (.booting w)) (hmoored : MooredBut n e.before) :
    Advances first es e := by
  obtain ⟨course, hcourse, htook⟩ := he.took
  cases turns_of_took htook with
  | waits link _ hnew hstate hstanding =>
    have hhere := barred_waits hcourse hstate hstanding
    have hlater := hmoored.after_of_ne he hcourse (hstanding ▸ moored_turn link)
    rw [← hstate] at hunder haboard
    exact advances_waits hcourse hstanding (.underway hunder haboard
      (List.forall_mem_cons.2 ⟨fun _ => hhere, hbarred⟩) (course_of_new he hrunner hnew) hrunning hlater)
  | takes link hbooting =>
    rw [hunder.booting] at hbooting
    cases hbooting
  | goes reply _ hgoer hwaits hnot hstate hstanding =>
    obtain rfl := hmoored.number_eq hgoer hwaits hnot
    obtain rfl := Option.some.inj (hrunner.symm.trans hgoer)
    obtain rfl := Progress.waiting.inj (hrunning.symm.trans hwaits)
    exact advances_launched he (launched_resume hunder haboard reply) hcourse hstate hstanding hbarred hmoored

theorem advances_booted {n : Nat} (he : e.Happens Boots answers) (hbooted : Booted e.before.state)
    (hbarred : ∀ e ∈ es, e.number ≠ n → Barred e) (hmoored : AllMoored e.before) : Advances first es e := by
  obtain ⟨course, hcourse, htook⟩ := he.took
  cases turns_of_took htook with
  | waits link hbooting =>
    rw [hbooted.booting] at hbooting
    cases hbooting
  | takes link _ hstate hstanding =>
    rw [takeTurn_booted hbooted.booted] at hstate hstanding
    have hhere : Barred e := ⟨by rw [hstate], course, hcourse, hstanding ▸ .done _⟩
    have hdone : Moored course.standing := hstanding ▸ moored_done _
    have hanswer := Protocol.Event.answer?_of_done hcourse hstanding
    have hstill : Booted e.after.state := by
      rw [hstate]
      exact hbooted
    refine ⟨.booted hstill (List.forall_mem_cons.2 ⟨fun _ => hhere, hbarred⟩)
      (((hmoored.but _).after he).all hcourse hdone), ?_, fun _ => hstill⟩
    simp [hanswer]
  | goes reply _ hgoer hwaits hnot => exact absurd hwaits (hmoored.not_goes hgoer hnot)

theorem advances (he : e.Happens Boots answers) (h : Phase first es e.before) : Advances first es e := by
  cases h with
  | idle hidle hbarred hmoored => exact advances_idle he hidle hbarred hmoored
  | asking hbefore hbarred hmem hturn hfree hasker hasking hmoored =>
    exact advances_asking he hbefore hbarred hmem hturn hfree hasker hasking hmoored
  | underway hunder haboard hbarred hrunner hrunning hmoored =>
    exact advances_underway he hunder haboard hbarred hrunner hrunning hmoored
  | booted hbooted hbarred hmoored => exact advances_booted he hbooted hbarred hmoored

theorem phase_of_trace (h : (protocol c).Trace Boots answers ⟨ofCatalog first, []⟩ es f) :
    Phase first es f ∧ Attempted es := by
  induction h with
  | start =>
    refine ⟨.idle rfl (fun e he => absurd he List.not_mem_nil) (fun m course hcourse => ?_), ?_, ?_, ?_⟩
    · simp at hcourse
    · intro later e earlier cause hes
      simp at hes
    · exact ⟨0, fun e he => absurd he List.not_mem_nil⟩
    · exact fun e he => absurd he List.not_mem_nil
  | @step es e _ he ih =>
    obtain ⟨hphase, hattempted⟩ := ih
    have hstep := advances he hphase
    refine ⟨hstep.phase, ?_, ?_, List.forall_mem_cons.2 ⟨hstep.loaded, hattempted.loaded⟩⟩
    · intro later e' earlier cause hes hanswer
      cases later with
      | nil =>
        obtain ⟨rfl, rfl⟩ : e = e' ∧ es = earlier := by simpa using hes
        exact hstep.failed cause hanswer
      | cons e'' later =>
        obtain ⟨rfl, rfl⟩ : e = e'' ∧ es = later ++ e' :: earlier := by simpa using hes
        exact hattempted.failed later e' earlier cause rfl hanswer
    · cases hstep.phase with
      | idle _ hbarred => exact ⟨0, fun e he _ => hbarred e he⟩
      | asking _ hbarred => exact ⟨0, fun e he _ => hbarred e he⟩
      | @underway n _ _ _ _ hbarred => exact ⟨n, hbarred⟩
      | @booted n _ hbarred => exact ⟨n, hbarred⟩

/-- However boots overlap and whatever they are answered, those that fail change nothing, one at most goes on
to the first screen and starts the crew, and each that succeeds finds the player ready. -/
theorem boots_attempted (h : (protocol c).Trace Boots answers ⟨ofCatalog first, []⟩ es f) : Attempted es :=
  (phase_of_trace h).2

/-- Two boots while there is no registry: the first fails, and the second waits for its turn. -/
def withoutRegistry : List (Protocol.Move Call) := [.begin (.boot none), .begin (.boot none), .resume 0]

/-- The second has its turn, now that there is one. -/
def withRegistry : List (Protocol.Move Call) := List.replicate 5 (.resume 1)

def noDocs (path : String) : Except SourceFault Json.Value := .error (.notFound path)

def firstAttempt : (protocol {}).Flight :=
  Protocol.Flight.play (P := protocol {}) (sourceOf noDocs) ⟨ofCatalog packCatalog, []⟩ withoutRegistry

def bothAttempts : (protocol {}).Flight :=
  Protocol.Flight.play (P := protocol {}) (sourceOf packDocs) firstAttempt withRegistry

def attempts : List (protocol {}).Event :=
  Protocol.Flight.events (P := protocol {}) (sourceOf packDocs) firstAttempt withRegistry ++
    Protocol.Flight.events (P := protocol {}) (sourceOf noDocs) ⟨ofCatalog packCatalog, []⟩ withoutRegistry

theorem boots_attempted_twice :
    (protocol {}).Trace Boots (fun _ _ => True) ⟨ofCatalog packCatalog, []⟩ attempts bothAttempts ∧
    Attempted attempts ∧ bothAttempts.Quiet ∧
    (attempts.filterMap fun e => e.answer?.map fun answer => (e.number, returnedOk (.done answer))) =
      [(1, true), (0, false)] ∧
    firstAttempt.state = ofCatalog packCatalog ∧ bothAttempts.state.booted = true := by
  have htrace : (protocol {}).Trace Boots (fun _ _ => True) ⟨ofCatalog packCatalog, []⟩ attempts bothAttempts := by
    refine Protocol.trace_events (fun _ => trivial) ?_ (Protocol.trace_script (fun _ => trivial) ?_)
    · simp [withRegistry]
    · simp [withoutRegistry, Boots]
  have hquiet : bothAttempts.Quiet := by
    unfold Protocol.Flight.Quiet
    decide +kernel
  exact ⟨htrace, boots_attempted htrace, hquiet, by decide +kernel, by decide +kernel, by decide +kernel⟩

end Gamebook.App
