import Gamebook.Proofs.Navigation.Arrivals
import Gamebook.Proofs.Navigation.Overlap
import Gamebook.Proofs.Stage.Operations
import Gamebook.Proofs.Story.Declared
import Gamebook.Proofs.Trace

/-! Style sheets. A navigation that shows a screen attaches its style sheet unless one of that name was attached
before; what it knows to be attached and what the stage lists are kept apart, and come to the same as long as
nobody else attaches any. The main statement is `attached_once_in_order`, over runs in which first navigations,
later ones and other changes of the stage overlap. -/
namespace Gamebook.Navigation

open Screen (Route)

inductive Call
  | start (link : Option String)
  | go (route : Route)
  | aside (op : Stage.Operation)

inductive Wait
  | opening (w : Opening)
  | regions (w : Fitting)

inductive Answer
  | opened (result : Except LoadFault Unit)
  | went (screen : Option ScreenId)
  | changed

abbrev Wait.request : Wait → Request
  | .opening w => w.request
  | .regions w => w.request

def Call.begin (c : Settings) : Call → Act (Staged Navigation) (Progress Wait Answer)
  | .start link => do return (← Navigation.start c link).map .opening .opened
  | .go route => do return (← Navigation.go c.navigation route).map .regions .went
  | .aside op => do
    Staged.onStage (Act.modify op.apply)
    return .done .changed

def Wait.resume (c : Settings) : (w : Wait) → w.request.Reply → Act (Staged Navigation) (Progress Wait Answer)
  | .opening w, reply => do return (← w.resume c reply).map .opening .opened
  | .regions w, reply => do return .done (.went (← settle w reply))

def shared (c : Settings) : Protocol (Staged Navigation) Call Wait Answer where
  request := Wait.request
  begin := Call.begin c
  resume := Wait.resume c
  ready _ _ := true

/-- Others attach no style sheets. -/
def Call.Sheetless (call : Call) : Prop := ∀ op, call = .aside op → op.attached? = none

section Events

variable {c : Settings}

/-- Whether a step is one of a navigation, and not what others do to the stage. -/
def own (e : (shared c).Event) : Bool :=
  match e.exchange?, e.course?.map Protocol.Course.call with
  | none, some (.aside _) => false
  | _, _ => true

/-- The screen of a navigation that is accepted in a step: it opens a generation, and its screen is active. -/
def shown? (e : (shared c).Event) : Option ScreenId :=
  if own e = true ∧ e.after.state.stage.generation ≠ e.before.state.stage.generation then
    e.after.state.stage.active
  else none

/-- The style sheet that the screen refers to which is shown in a step, unless it is blank. -/
def sheet? (e : (shared c).Event) : Option Resource :=
  (shown? e).bind fun screen =>
    (e.after.state.part.entryOf screen).css.filter fun href => !Text.blank href.text

def fresh (e : (shared c).Event) : List Resource :=
  (sheet? e).toList.filter fun href => !e.before.state.part.styles.contains href

theorem unattached_eq (nav : Navigation) (entry : Screen.Entry) : nav.unattached entry =
    (entry.css.filter fun href => !Text.blank href.text).toList.filter fun href => !nav.styles.contains href := by
  unfold unattached
  cases entry.css with
  | none => rfl
  | some href =>
    cases hblank : Text.blank href.text <;> by_cases hin : href ∈ nav.styles <;> simp [Option.filter, hblank, hin]

inductive Showed (s : Staged Navigation) (made : Made (Staged Navigation) (Progress Fitting (Option ScreenId))) : Prop
  | refused : made.state = s → accepted? made = none → Showed s made
  | shown {screen : ScreenId} : (accepted? made).map (·.screen) = some screen →
      made.state.stage.active = some screen → made.state.stage.generation = s.stage.generation + 1 →
      made.state.part.registry = s.part.registry →
      made.state.stage.stylesheets = s.stage.stylesheets ++ s.part.unattached (s.part.entryOf screen) →
      made.state.part.styles = s.part.styles ++ s.part.unattached (s.part.entryOf screen) → Showed s made

theorem showed_go (route : Route) (s : Staged Navigation) : Showed s (go c.navigation route s) := by
  cases hr : s.part.registry with
  | none =>
    simp only [go, Act.bind_get, hr]
    exact .refused rfl rfl
  | some registry =>
    cases hm : s.part.memory.resolve route registry with
    | error cause =>
      rw [go_of_error hr hm]
      exact .refused rfl rfl
    | ok screen =>
      have hentry : (registry.entry? screen).getD {} = s.part.entryOf screen := by
        rw [entryOf, hr, Option.bind_some]
      have hstate := depart_eq (c := c.navigation) _ hentry
      have hmoved := moved_go (c := c.navigation) hr hm
      refine .shown ?_ hmoved.active hmoved.generation hmoved.registry ?_ ?_
      · rcases hmoved.value with hvalue | ⟨w, hvalue, hscreen⟩ <;> simp [accepted?, *]
      all_goals
        simp only [go, Act.bind_get, hr, hm]
        cases ((registry.entry? screen).getD {}).hitboxes <;>
          simp only [Act.bind_apply, Act.pure_apply, arrive, Staged.onStage_apply, Staged.onPart_apply,
            Act.modify_apply, hstate] <;> rfl

structure Attaches (e : (shared c).Event) : Prop where
  stylesheets : e.after.state.stage.stylesheets = e.before.state.stage.stylesheets ++ fresh e
  styles : e.after.state.part.styles = e.before.state.part.styles ++ fresh e

variable {e : (shared c).Event}

theorem shown?_of_still (h : e.after.state.stage.generation = e.before.state.stage.generation) :
    shown? e = none :=
  if_neg fun hnot => hnot.2 h

theorem Attaches.of_same (hshown : shown? e = none)
    (hsheets : e.after.state.stage.stylesheets = e.before.state.stage.stylesheets)
    (hstyles : e.after.state.part.styles = e.before.state.part.styles) : Attaches e := by
  have hfresh : fresh e = [] := by simp [fresh, sheet?, hshown]
  exact ⟨by rw [hfresh, hsheets, List.append_nil], by rw [hfresh, hstyles, List.append_nil]⟩

/-- In a step that begins a navigation the screen is shown that the navigation answers with. -/
theorem shown?_going {route : Route} {s : Staged Navigation} (hown : own e = true)
    (hafter : e.after.state = (go c.navigation route s).state)
    (hgeneration : s.stage.generation = e.before.state.stage.generation) :
    shown? e = (accepted? (go c.navigation route s)).map (·.screen) := by
  cases showed_go (c := c) route s with
  | refused hsame hnone => rw [hnone, shown?_of_still (by rw [hafter, hsame, hgeneration])]; rfl
  | shown haccepted hactive hraised _ _ _ =>
    rw [shown?, if_pos ⟨hown, by rw [hafter, hraised, hgeneration]; simp⟩, hafter, hactive, haccepted]

theorem attaches_going {route : Route} {s : Staged Navigation} (hown : own e = true)
    (hafter : e.after.state = (go c.navigation route s).state)
    (hgeneration : s.stage.generation = e.before.state.stage.generation)
    (hsheets : s.stage.stylesheets = e.before.state.stage.stylesheets)
    (hstyles : s.part.styles = e.before.state.part.styles) : Attaches e := by
  have hshown := shown?_going hown hafter hgeneration
  cases showed_go (c := c) route s with
  | refused hsame hnone =>
    rw [hnone, Option.map_none] at hshown
    exact .of_same hshown (by rw [hafter, hsame, hsheets]) (by rw [hafter, hsame, hstyles])
  | @shown screen haccepted _ _ hregistry hattached hnoted =>
    rw [haccepted] at hshown
    have hentry : e.after.state.part.entryOf screen = s.part.entryOf screen := by
      rw [hafter, entryOf, entryOf, hregistry]
    have hfresh : s.part.unattached (s.part.entryOf screen) = fresh e := by
      rw [unattached_eq, fresh, sheet?, hshown, Option.bind_some, hentry, hstyles]
    exact ⟨by rw [hafter, hattached, hfresh, hsheets], by rw [hafter, hnoted, hfresh, hstyles]⟩

theorem attaches_settled (w : Fitting) (reply : w.request.Reply)
    (hafter : e.after.state = (settle w reply e.before.state).state) : Attaches e := by
  have hgeneration := (settle_same w reply e.before.state).2.1
  refine .of_same (shown?_of_still (by rw [hafter, hgeneration])) ?_ ?_
  · rw [hafter, settle_state, announce, Fitting.resume_state]
    split <;> rfl
  · rw [hafter, settle_state]
    rfl

theorem stylesheets_entered (registry : Screen.Registry) (s : Staged Navigation) :
    (entered registry s).stage.stylesheets = s.stage.stylesheets := by
  have hall : ∀ (ids : List ScreenId) (stage : Stage), (ids.foldl Stage.ensure stage).stylesheets = stage.stylesheets := by
    intro ids
    induction ids with
    | nil => exact fun _ => rfl
    | cons screen ids ih => exact fun stage => ih (stage.ensure screen)
  exact hall registry.ids s.stage

variable {answers : (r : Request) → r.Reply → Prop}

theorem own_begun (f : (shared c).Flight) (call : Call) :
    own (Protocol.Event.begun (shared c) f call) = match call with
      | .aside _ => false
      | _ => true := by
  rw [own, Protocol.Event.course?_begun]
  cases call <;> rfl

theorem state_opened (s : Staged Navigation) (before : List (shared c).Course) (course : (shared c).Course)
    (after : List (shared c).Course) {path : String} {link : Option String}
    {reply : (Opening.registry path link).request.Reply} {registry : Screen.Registry}
    (hloaded : Screen.Registry.ofReply path reply = .ok registry) :
    (Protocol.Event.resumed (P := shared c) s before course after (.opening (.registry path link)) reply).after.state =
      (go c.navigation (.screen (first c.navigation registry link s.part.memory)) (entered registry s)).state := by
  show ((Opening.registry path link).resume c reply s).state = _
  rw [Opening.resume_of_ok c link hloaded, (enter_eq c.navigation registry link s).1]

theorem attaches_of_happens (he : e.Happens Call.Sheetless answers) : Attaches e := by
  cases he with
  | @begin f call hsheetless =>
    cases call with
    | start link =>
      have hafter : (Protocol.Event.begun (shared c) f (.start link)).after.state = f.state := start_state c link f.state
      exact .of_same (shown?_of_still (by rw [hafter]; rfl)) (by rw [hafter]; rfl) (by rw [hafter]; rfl)
    | go route => exact attaches_going (s := f.state) (own_begun f _) rfl rfl rfl rfl
    | aside op =>
      have hnone : shown? (Protocol.Event.begun (shared c) f (.aside op)) = none :=
        if_neg fun hnot => Bool.false_ne_true ((own_begun f (.aside op)).symm.trans hnot.1)
      refine .of_same hnone ?_ rfl
      show (op.apply f.state.stage).stylesheets = f.state.stage.stylesheets
      rw [Stage.Operation.stylesheets_apply, hsheetless op rfl, Option.toList_none, List.append_nil]
  | @resume s before after course w reply hw _ _ =>
    cases w with
    | regions w => exact attaches_settled w reply rfl
    | opening w =>
      cases w with
      | regions w => exact attaches_settled w reply rfl
      | registry path link =>
        cases hloaded : Screen.Registry.ofReply path reply with
        | error cause =>
          have hafter : (Protocol.Event.resumed (P := shared c) s before course after (.opening (.registry path link))
              reply).after.state = ((Opening.registry path link).resume c reply s).state := rfl
          rw [Opening.resume_of_error c link hloaded] at hafter
          exact .of_same (shown?_of_still (by rw [hafter]; rfl)) (by rw [hafter]; rfl) (by rw [hafter]; rfl)
        | ok registry =>
          have hgeneration := (Stage.ensureAll_same s.stage registry.ids).1
          exact attaches_going rfl (state_opened s before course after hloaded) hgeneration
            (stylesheets_entered registry s) rfl

variable {es : List (shared c).Event} {f : (shared c).Flight} {s : Staged Navigation}

/-- The style sheets of the screens shown in a run, each where it came first, are what the stage lists; nothing is
ever taken off the list or moved in it, and navigation knows all that is on it. The screens are those of the
navigations that are accepted, first ones and later ones. -/
structure AttachedOnce (es : List (shared c).Event) (f : (shared c).Flight) : Prop where
  nodup : f.state.stage.stylesheets.Nodup
  listed : f.state.stage.stylesheets = (es.reverse.filterMap sheet?).eraseDups
  grown : ∀ e ∈ es, e.before.state.stage.stylesheets <+: e.after.state.stage.stylesheets ∧
    e.after.state.stage.stylesheets <+: f.state.stage.stylesheets
  known : ∀ href, href ∈ f.state.stage.stylesheets ↔ href ∈ f.state.part.styles
  accepted : ∀ g route, Protocol.Event.begun (shared c) g (.go route) ∈ es →
    shown? (Protocol.Event.begun (shared c) g (.go route)) =
      (accepted? (go c.navigation route g.state)).map (·.screen)
  opened : ∀ s before course after path link reply registry,
    Protocol.Event.resumed (P := shared c) s before course after (.opening (.registry path link)) reply ∈ es →
    Screen.Registry.ofReply path reply = .ok registry →
    shown? (Protocol.Event.resumed (P := shared c) s before course after (.opening (.registry path link)) reply) =
      (accepted? (go c.navigation (.screen (first c.navigation registry link s.part.memory))
        (entered registry s))).map (·.screen)

theorem styles_of_trace (hsame : s.part.styles = s.stage.stylesheets)
    (h : (shared c).Trace Call.Sheetless answers ⟨s, []⟩ es f) :
    f.state.part.styles = f.state.stage.stylesheets := by
  induction h with
  | start => exact hsame
  | step _ he ih =>
    have hattaches := attaches_of_happens he
    rw [hattaches.styles, hattaches.stylesheets, ih]

theorem listed_of_trace (hsheets : s.stage.stylesheets = []) (hstyles : s.part.styles = [])
    (h : (shared c).Trace Call.Sheetless answers ⟨s, []⟩ es f) :
    f.state.stage.stylesheets = (es.reverse.filterMap sheet?).eraseDups := by
  induction h with
  | start => exact hsheets
  | @step es e htrace he ih =>
    have hknown := styles_of_trace (hstyles.trans hsheets.symm) htrace
    rw [(attaches_of_happens he).stylesheets, List.reverse_cons, List.filterMap_append, fresh, hknown, ih]
    cases hsheet : sheet? e with
    | none => simp [hsheet]
    | some href =>
      have hlast : [e].filterMap sheet? = [href] := by simp [hsheet]
      rw [hlast, Table.eraseDups_concat]
      by_cases hin : href ∈ es.reverse.filterMap sheet?
      · have hcontains : (es.reverse.filterMap sheet?).eraseDups.contains href = true := by
          rw [List.contains_iff_mem, List.mem_eraseDups]
          exact hin
        rw [if_pos hin, Option.toList_some, List.filter_singleton, hcontains]
        exact List.append_nil _
      · have hcontains : (es.reverse.filterMap sheet?).eraseDups.contains href = false := by
          rw [Bool.eq_false_iff, Ne, List.contains_iff_mem, List.mem_eraseDups]
          exact hin
        rw [if_neg hin, Option.toList_some, List.filter_singleton, hcontains]
        rfl

theorem nodup_of_trace (hsame : s.part.styles = s.stage.stylesheets) (hs : s.stage.stylesheets.Nodup)
    (h : (shared c).Trace Call.Sheetless answers ⟨s, []⟩ es f) : f.state.stage.stylesheets.Nodup := by
  induction h with
  | start => exact hs
  | @step es e htrace he ih =>
    rw [(attaches_of_happens he).stylesheets, List.nodup_append]
    have hnew : (fresh e).Nodup := (by cases sheet? e <;> simp : (sheet? e).toList.Nodup).filter _
    refine ⟨ih, hnew, fun href hin href' hfresh => ?_⟩
    rintro rfl
    rw [← styles_of_trace hsame htrace] at hin
    simp [fresh, hin] at hfresh

theorem grown_of_trace (h : (shared c).Trace Call.Sheetless answers ⟨s, []⟩ es f) :
    ∀ e ∈ es, e.before.state.stage.stylesheets <+: e.after.state.stage.stylesheets ∧
      e.after.state.stage.stylesheets <+: f.state.stage.stylesheets := by
  induction h with
  | start => exact fun e he => absurd he List.not_mem_nil
  | @step es e _ he ih =>
    have hgrown : e.before.state.stage.stylesheets <+: e.after.state.stage.stylesheets :=
      ⟨fresh e, (attaches_of_happens he).stylesheets.symm⟩
    intro e' he'
    rcases List.mem_cons.1 he' with rfl | he'
    · exact ⟨hgrown, List.prefix_refl _⟩
    · exact ⟨(ih e' he').1, (ih e' he').2.trans hgrown⟩

/-- However navigations overlap with each other and with what others do to the stage, as long as those attach
no style sheets: each that a shown screen refers to is attached once, in the order in which they came. -/
theorem attached_once_in_order (hsheets : s.stage.stylesheets = []) (hstyles : s.part.styles = [])
    (h : (shared c).Trace Call.Sheetless answers ⟨s, []⟩ es f) : AttachedOnce es f := by
  have hsame : s.part.styles = s.stage.stylesheets := hstyles.trans hsheets.symm
  refine ⟨nodup_of_trace hsame (by simp [hsheets]) h, listed_of_trace hsheets hstyles h, grown_of_trace h,
    fun href => ?_, fun g route _ => shown?_going (own_begun g _) rfl rfl, ?_⟩
  · rw [styles_of_trace hsame h]
  · intro s before course after path link reply registry _ hloaded
    exact shown?_going rfl (state_opened s before course after hloaded) (Stage.ensureAll_same s.stage registry.ids).1

end Events

/-- A house with a style sheet for two of its screens, one of its own for the cellar, and a blank one for the yard. -/
def house : Json.Value :=
  .object [("start_screen", .string "hall"), ("screens", .object [
    ("hall", .object [("css", .string "house.css"), ("hitboxes", .string "doors.json")]),
    ("attic", .object [("css", .string "house.css")]),
    ("cellar", .object [("css", .string "cellar.css"), ("hitboxes", .string "stairs.json")]),
    ("yard", .object [("css", .string " ")])])]

def houseSource : (r : Request) → r.Reply
  | .document path => if path = "sec/screen_registry.json" then .ok house else .error (.notFound path)
  | .place _ => .ok none
  | .savePlace _ _ => .ok ()
  | .turn => ()

/-- The yard is asked for too early. The regions of the hall come when the cellar and the attic were shown, and
those of the cellar when the hall is shown again. -/
def throughTheHouse : List (Protocol.Move Call) := [
  .begin (.start none), .begin (.go (.screen ⟨"yard"⟩)), .resume 0, .begin (.go (.screen ⟨"cellar"⟩)),
  .begin (.aside .deactivateAll), .begin (.go (.screen ⟨"attic"⟩)), .resume 0, .begin (.go (.screen ⟨"yard"⟩)),
  .begin (.go (.screen ⟨"hall"⟩)), .resume 2]

def seenHouse : (shared {}).Flight :=
  Protocol.Flight.play (P := shared {}) houseSource ⟨⟨{}, {}⟩, []⟩ throughTheHouse

def houseEvents : List (shared {}).Event :=
  Protocol.Flight.events (P := shared {}) houseSource ⟨⟨{}, {}⟩, []⟩ throughTheHouse

theorem attached_once_in_order_through_the_house :
    (shared {}).Trace Call.Sheetless (fun _ _ => True) ⟨⟨{}, {}⟩, []⟩ houseEvents seenHouse ∧
    AttachedOnce houseEvents seenHouse ∧
    houseEvents.reverse.filterMap shown? = [⟨"hall"⟩, ⟨"cellar"⟩, ⟨"attic"⟩, ⟨"yard"⟩, ⟨"hall"⟩] ∧
    seenHouse.state.stage.stylesheets = [⟨"house.css"⟩, ⟨"cellar.css"⟩] := by
  have hsheetless : ∀ call, .begin call ∈ throughTheHouse → call.Sheetless := by
    rintro call hcall op rfl
    simp [throughTheHouse] at hcall
    subst hcall
    rfl
  have htrace : (shared {}).Trace Call.Sheetless (fun _ _ => True) ⟨⟨{}, {}⟩, []⟩ houseEvents seenHouse :=
    Protocol.trace_script (fun _ => trivial) hsheetless
  exact ⟨htrace, attached_once_in_order rfl rfl htrace, by decide +kernel, by decide +kernel⟩

end Gamebook.Navigation
