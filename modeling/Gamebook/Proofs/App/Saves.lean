import Gamebook.Proofs.App.Places
import Gamebook.Proofs.Session.Refinement

/-! When the places of readers are saved. A choice moves the reader at once, and its call then waits for the save.
All that is known of a save is that it takes effect at some moment before its call goes on, and so the saves of
two calls that overlap may do so in either order. At the end the store has the place where the reader is, unless
the save of the newest choice was overtaken: `saved_unless_overtaken`. -/
namespace Gamebook.App

open Protocol

variable {c : Settings} {docs : String → Except SourceFault Json.Value} {catalog : Catalog}

/-- A save that took effect: that of the call of a number, with the choice that it keeps. -/
structure Landing where
  number : Nat
  choice : StoryId × NodeId
  deriving DecidableEq

def saved? (e : (protocol c).Event) : Option (StoryId × NodeId) :=
  e.exchange?.bind fun x => x.asked.saving?.map Saving.choice

/-- A run over a store where each save takes effect once, at any moment between its call and its return; with the
saves as they did so, the last one first. What the store replies to loads is left open. -/
inductive SavingRun (c : Settings) (docs : String → Except SourceFault Json.Value) (start : (protocol c).Flight) :
    List (protocol c).Event → List Landing → (protocol c).Flight → Prop
  | start : SavingRun c docs start [] [] start
  | step {es : List (protocol c).Event} {landed : List Landing} {e : (protocol c).Event} :
      SavingRun c docs start es landed e.before → e.Happens Call.Plays (Fixed docs) →
      (∀ choice, saved? e = some choice → ⟨e.number, choice⟩ ∈ landed) → SavingRun c docs start (e :: es) landed e.after
  | lands {es : List (protocol c).Event} {landed : List Landing} {f : (protocol c).Flight} {number : Nat}
      {course : (protocol c).Course} {w : Saving} : SavingRun c docs start es landed f →
      f.courses[number]? = some course → course.standing.saving? = some w →
      (∀ l ∈ landed, l.number ≠ number) → SavingRun c docs start es (⟨number, w.choice⟩ :: landed) f

def stored (saved : Table StoryId NodeId) (landed : List Landing) : Table StoryId NodeId :=
  landed.foldr (fun l t => t.put l.choice.1 l.choice.2) saved

/-- The save of the newest choice of a story was overtaken: one that keeps another scene took effect last. -/
def Overtaken (story : StoryId) (landed : List Landing) : Prop :=
  ∃ late newest, landed.find? (fun l => l.choice.1 = story) = some late ∧
    newest ∈ landed ∧ newest.choice.1 = story ∧ (∀ l ∈ landed, l.choice.1 = story → l.number ≤ newest.number) ∧
    late.choice.2 ≠ newest.choice.2

/-- The last save of a story that took effect is what the store has of it. -/
theorem get?_stored (saved : Table StoryId NodeId) (landed : List Landing) (story : StoryId) :
    (stored saved landed).get? story =
      ((landed.find? fun l => l.choice.1 = story).map (·.choice.2)).or (saved.get? story) := by
  induction landed with
  | nil => rfl
  | cons l landed ih =>
    show ((stored saved landed).put l.choice.1 l.choice.2).get? story = _
    rw [Table.get?_put, ih, List.find?_cons]
    by_cases hstory : l.choice.1 = story <;> simp [hstory]

section Numbers

variable {allowed : Call → Prop} {answers : (r : Request) → r.Reply → Prop} {start f : (protocol c).Flight}
variable {es : List (protocol c).Event} {e : (protocol c).Event}

theorem number_lt_of_happens (he : e.Happens allowed answers) : e.number < e.after.courses.length := by
  obtain ⟨course, hcourse, -⟩ := he.took
  exact (List.getElem?_eq_some_iff.1 hcourse).1

theorem length_le_of_event (he : e.Happens allowed answers) :
    e.before.courses.length ≤ e.after.courses.length := by
  cases he <;> simp [Event.begun, Event.resumed]

theorem number_lt_of_trace (h : (protocol c).Trace allowed answers start es f) :
    ∀ e ∈ es, e.number < f.courses.length := by
  induction h with
  | start => simp
  | step _ he ih =>
    exact List.forall_mem_cons.2 ⟨number_lt_of_happens he, fun e' he' =>
      (ih e' he').trans_le (length_le_of_event he)⟩

theorem number_of_choice (h : (protocol c).Trace Call.Plays answers ⟨ofCatalog catalog, []⟩ es e.before)
    (he : e.Happens Call.Plays answers) {choice : StoryId × NodeId} (hchoice : choice? e = some choice) :
    e.number = e.before.courses.length := by
  cases he with
  | begin f hplays => rfl
  | @resume s before after course w reply hw hready hreply =>
    obtain ⟨hregular, -⟩ := waits_of_trace h (List.mem_append_right before List.mem_cons_self) hw
    have hnone := (choice?_resumed s before after course w reply).trans
      (congrArg (Option.map Saving.choice) (saving?_resume hregular reply s))
    cases hnone.symm.trans hchoice

theorem exists_lastChoice (h : (protocol c).Trace Call.Plays answers ⟨ofCatalog catalog, []⟩ es f)
    {story : StoryId} {node : NodeId} (hlast : lastChoice? story es = some node) :
    ∃ e ∈ es, choice? e = some (story, node) ∧
      ∀ e' ∈ es, ∀ node', choice? e' = some (story, node') → e' = e ∨ e'.number < e.number := by
  induction h with
  | start => cases hlast
  | @step es e h he ih =>
    rw [lastChoice?_cons] at hlast
    have hlater : ∀ e' ∈ es, ∀ choice, choice? e = some choice → e'.number < e.number := fun e' he' choice hchoice =>
      (number_lt_of_trace h e' he').trans_eq (number_of_choice h he hchoice).symm
    cases hchoice : Table.get? (choice? e).toList story with
    | some target =>
      rw [hchoice, Option.some_or] at hlast
      obtain rfl := Option.some.inj hlast
      have hmade : choice? e = some (story, target) := by
        cases hc : choice? e with
        | none => rw [hc] at hchoice; cases hchoice
        | some choice =>
          rw [hc, Option.toList_some, Table.get?_cons, Table.get?_nil] at hchoice
          split at hchoice
          · rename_i hstory
            obtain rfl := Option.some.inj hchoice
            rw [← hstory]
          · cases hchoice
      refine ⟨e, List.mem_cons_self, hmade, fun e' he' node' _ => ?_⟩
      exact (List.mem_cons.1 he').imp_right fun he' => hlater e' he' _ hmade
    | none =>
      rw [hchoice, Option.none_or] at hlast
      obtain ⟨last, hin, hmade, hbefore⟩ := ih hlast
      refine ⟨last, List.mem_cons_of_mem e hin, hmade, fun e' he' node' hchoice' => ?_⟩
      rcases List.mem_cons.1 he' with rfl | he'
      · rw [hchoice', Option.toList_some, Table.get?_cons, if_pos rfl] at hchoice
        cases hchoice
      · exact hbefore e' he' node' hchoice'

end Numbers

namespace SavingRun

variable {start f : (protocol c).Flight} {es : List (protocol c).Event} {landed : List Landing}

theorem trace (h : SavingRun c docs start es landed f) : (protocol c).Trace Call.Plays (Fixed docs) start es f := by
  induction h with
  | start => exact .start
  | step _ he _ ih => exact ih.step he
  | lands _ _ _ _ ih => exact ih

theorem goOn {g : (protocol c).Flight} {es' : List (protocol c).Event} (h : SavingRun c docs start es landed f)
    (htrace : (protocol c).Trace Call.Plays (Fixed docs) f es' g)
    (hsaved : ∀ e ∈ es', ∀ choice, saved? e = some choice → ⟨e.number, choice⟩ ∈ landed) :
    SavingRun c docs start (es' ++ es) landed g := by
  induction htrace with
  | start => exact h
  | step _ he ih =>
    obtain ⟨hlast, hrest⟩ := List.forall_mem_cons.1 hsaved
    exact (ih hrest).step he hlast

theorem choice_of_saving (h : SavingRun c docs start es landed f) (hstart : start.courses = []) {number : Nat}
    {course : (protocol c).Course} {w : Saving} (hcourse : f.courses[number]? = some course)
    (hw : course.standing.saving? = some w) : ∃ e ∈ es, e.number = number ∧ choice? e = some w.choice := by
  induction h generalizing course with
  | start =>
    rw [hstart] at hcourse
    cases hcourse
  | @step es landed e _ he _ ih =>
    by_cases hnumber : number = e.number
    · subst hnumber
      refine ⟨e, List.mem_cons_self, rfl, ?_⟩
      rw [choice?, Event.course?, hcourse]
      exact congrArg (Option.map Saving.choice) hw
    · rw [he.courses_of_ne hnumber] at hcourse
      obtain ⟨e', he', hmade⟩ := ih hcourse hw
      exact ⟨e', List.mem_cons_of_mem e he', hmade⟩
  | lands _ _ _ _ ih => exact ih hcourse hw

theorem choice_of_landed (h : SavingRun c docs start es landed f) (hstart : start.courses = []) :
    ∀ l ∈ landed, ∃ e ∈ es, e.number = l.number ∧ choice? e = some l.choice := by
  induction h with
  | start => exact fun l hl => absurd hl List.not_mem_nil
  | step _ _ _ ih =>
    intro l hl
    obtain ⟨e', he', hmade⟩ := ih l hl
    exact ⟨e', List.mem_cons_of_mem _ he', hmade⟩
  | lands h hcourse hw _ ih => exact List.forall_mem_cons.2 ⟨h.choice_of_saving hstart hcourse hw, ih⟩

/-- A choice waits to be saved, or it was. -/
theorem saving_or_landed (h : SavingRun c docs start es landed f) :
    ∀ e ∈ es, ∀ choice, choice? e = some choice →
      (∃ course w, f.courses[e.number]? = some course ∧ course.standing.saving? = some w ∧ w.choice = choice) ∨
        ⟨e.number, choice⟩ ∈ landed := by
  induction h with
  | start => exact fun e he => absurd he List.not_mem_nil
  | @step es landed e _ he hsaved ih =>
    intro e' he' choice hchoice
    rcases List.mem_cons.1 he' with rfl | he'
    · obtain ⟨course, hcourse, hchoice⟩ := Option.bind_eq_some_iff.1 hchoice
      obtain ⟨w, hw, rfl⟩ := Option.map_eq_some_iff.1 hchoice
      exact .inl ⟨course, w, hcourse, hw, rfl⟩
    · refine (ih e' he' choice hchoice).elim (fun ⟨course, w, hcourse, hw, hkept⟩ => ?_) .inr
      by_cases hnumber : e'.number = e.number
      · -- the call goes on, and so it hears of the save
        refine .inr (hnumber ▸ hsaved choice ?_)
        rw [hnumber] at hcourse
        obtain ⟨after, -, htook⟩ := he.took
        cases htook with
        | begun _ hnone => rw [hnone] at hcourse; cases hcourse
        | @resumed before w' reply hexchange hbefore hstanding =>
          obtain rfl := Option.some.inj (hbefore.symm.trans hcourse)
          rw [hstanding] at hw
          rw [saved?, hexchange, Option.bind_some]
          exact (congrArg (Option.map Saving.choice) hw).trans (congrArg some hkept)
      · exact .inl ⟨course, w, (he.courses_of_ne hnumber).trans hcourse, hw, hkept⟩
  | lands _ _ _ _ ih =>
    intro e he choice hchoice
    exact (ih e he choice hchoice).imp_right (List.mem_cons_of_mem _)

end SavingRun

/-- **The place that is saved is the place where the reader is**, once every call has returned, unless the save of
the newest choice was overtaken. -/
theorem saved_unless_overtaken {f : (protocol c).Flight} {es : List (protocol c).Event} {landed : List Landing}
    (h : SavingRun c docs ⟨ofCatalog catalog, []⟩ es landed f) (hquiet : f.Quiet) {story : StoryId} {node : NodeId}
    (hlast : lastChoice? story es = some node) (saved : Table StoryId NodeId) :
    (stored saved landed).get? story = f.state.place? story ↔ ¬ Overtaken story landed := by
  obtain ⟨e, he, hmade, hnewest⟩ := exists_lastChoice h.trace hlast
  -- the call of the last choice has returned, and so its save took effect
  have hlanded : ⟨e.number, (story, node)⟩ ∈ landed := by
    refine (h.saving_or_landed e he _ hmade).resolve_left ?_
    rintro ⟨course, w, hcourse, hw, -⟩
    obtain ⟨answer, hdone⟩ := (Progress.isDone_iff _).1 (hquiet course (List.mem_of_getElem? hcourse))
    rw [hdone] at hw
    cases hw
  -- of all saves of the story, this one is of the newest call
  have hmax : ∀ l ∈ landed, l.choice.1 = story →
      l.number < e.number ∨ l.number = e.number ∧ l.choice.2 = node := by
    intro l hl hstory
    obtain ⟨e', he', hnumber, hchoice⟩ := h.choice_of_landed rfl l hl
    have hchoice' : choice? e' = some (story, l.choice.2) := hchoice.trans (congrArg some (Prod.ext hstory rfl))
    rw [← hnumber]
    rcases hnewest e' he' _ hchoice' with rfl | hlt
    · cases hmade.symm.trans hchoice'
      exact .inr ⟨rfl, rfl⟩
    · exact .inl hlt
  obtain ⟨late, hlate⟩ : ∃ late, landed.find? (fun l => l.choice.1 = story) = some late :=
    Option.isSome_iff_exists.1 (List.find?_isSome.2 ⟨_, hlanded, by simp⟩)
  have hplace : f.state.place? story = some node := by
    rw [place?_of_trace h.trace, hlast, Option.some_or]
  rw [get?_stored, hlate, hplace, Option.map_some, Option.some_or, Option.some.injEq]
  constructor
  · rintro hkept ⟨late', newest, hlate', hin, hstory, hle, hne⟩
    obtain rfl := Option.some.inj (hlate.symm.trans hlate')
    rcases hmax newest hin hstory with hlt | ⟨-, hnode⟩
    · exact absurd (hle _ hlanded rfl) (Nat.not_le_of_lt hlt)
    · exact hne (hkept.trans hnode.symm)
  · intro hnot
    by_contra hne
    refine hnot ⟨late, ⟨e.number, (story, node)⟩, hlate, hlanded, rfl, fun l hl hstory => ?_, hne⟩
    exact (hmax l hl hstory).elim Nat.le_of_lt fun h => Nat.le_of_eq h.1

/-- Saves that take effect in the order of their calls overtake none. -/
theorem not_overtaken_of_in_order {landed : List Landing} {story : StoryId}
    (h : (landed.filter fun l => l.choice.1 = story).Pairwise fun l l' => l'.number < l.number) :
    ¬ Overtaken story landed := by
  rintro ⟨late, newest, hlate, hin, hstory, hle, hne⟩
  have hhead : (landed.filter fun l => l.choice.1 = story).head? = some late :=
    (List.head?_filter ..).trans hlate
  obtain ⟨rest, hrest⟩ := List.head?_eq_some_iff.1 hhead
  have hnewest : newest ∈ landed.filter fun l => l.choice.1 = story :=
    List.mem_filter.2 ⟨hin, decide_eq_true hstory⟩
  rw [hrest] at h hnewest
  rcases List.mem_cons.1 hnewest with rfl | hnewest
  · exact hne rfl
  · obtain ⟨hfirst, -⟩ := List.pairwise_cons.1 h
    have hlate : late ∈ landed ∧ _ := List.mem_filter.1 (hrest ▸ List.mem_cons_self)
    exact absurd (hle late hlate.1 (of_decide_eq_true hlate.2)) (Nat.not_le_of_lt (hfirst newest hnewest))

/-- A story of three scenes, each of which leads to the next. -/
def stairs (path : String) : Except SourceFault Json.Value :=
  if path = "sec/screen_registry.json" then
    .ok (.object [("start_screen", .string "story_a"), ("screens", .object [("story_a", .object [])])])
  else if path = "a.json" then
    .ok (.object [("start", .string "S1"), ("scenes", .object [
      ("S1", .object [("text", .string "One"), ("options", .array [
        .object [("label", .string "On"), ("to", .string "S2")]])]),
      ("S2", .object [("text", .string "Two"), ("options", .array [
        .object [("label", .string "On"), ("to", .string "S3")]])]),
      ("S3", .object [("text", .string "Three")])])])
  else .error (.notFound path)

/-- The reader goes on twice before any choice is saved. -/
def climbingMoves : List (Move Call) :=
  [.begin (.boot none), .resume 0, .resume 0, .resume 0, .begin (.choose 0), .begin (.choose 0)]

def climbing : (protocol {}).Flight :=
  Flight.play (P := protocol {}) (sourceOf stairs) ⟨ofCatalog taleCatalog, []⟩ climbingMoves

def arrived : (protocol {}).Flight :=
  Flight.play (P := protocol {}) (sourceOf stairs) climbing [.resume 1, .resume 2]

def climbingEvents : List (protocol {}).Event :=
  Flight.events (P := protocol {}) (sourceOf stairs) ⟨ofCatalog taleCatalog, []⟩ climbingMoves

def arrivingEvents : List (protocol {}).Event :=
  Flight.events (P := protocol {}) (sourceOf stairs) climbing [.resume 1, .resume 2]

def older : Landing := ⟨1, (⟨"a"⟩, ⟨"S2"⟩)⟩
def newer : Landing := ⟨2, (⟨"a"⟩, ⟨"S3"⟩)⟩

theorem savingRun_climbing : SavingRun {} stairs ⟨ofCatalog taleCatalog, []⟩ climbingEvents [] climbing := by
  have htrace : (protocol {}).Trace Call.Plays (Fixed stairs) ⟨ofCatalog taleCatalog, []⟩ climbingEvents climbing :=
    trace_script (fixed_sourceOf stairs) (by simp [climbingMoves, Call.Plays])
  have hnone : ∀ e ∈ climbingEvents, saved? e = none := by decide +kernel
  rw [← List.append_nil climbingEvents]
  exact SavingRun.start.goOn htrace fun e he choice hsaved => by cases (hnone e he).symm.trans hsaved

theorem SavingRun.save {landed : List Landing}
    (h : SavingRun {} stairs ⟨ofCatalog taleCatalog, []⟩ climbingEvents landed climbing) {l : Landing}
    (hl : l ∈ [older, newer]) (hnew : ∀ l' ∈ landed, l'.number ≠ l.number) :
    SavingRun {} stairs ⟨ofCatalog taleCatalog, []⟩ climbingEvents (l :: landed) climbing := by
  have hwait : ∀ l ∈ [older, newer], (climbing.courses[l.number]?.bind fun course =>
      course.standing.saving?).map Saving.choice = some l.choice := by decide +kernel
  obtain ⟨w, hfound, hchoice⟩ := Option.map_eq_some_iff.1 (hwait l hl)
  obtain ⟨course, hcourse, hw⟩ := Option.bind_eq_some_iff.1 hfound
  obtain ⟨number, choice⟩ := l
  obtain rfl : w.choice = choice := hchoice
  exact h.lands hcourse hw hnew

theorem SavingRun.arrive {landed : List Landing}
    (h : SavingRun {} stairs ⟨ofCatalog taleCatalog, []⟩ climbingEvents landed climbing)
    (hlanded : ∀ l ∈ [older, newer], l ∈ landed) :
    SavingRun {} stairs ⟨ofCatalog taleCatalog, []⟩ (arrivingEvents ++ climbingEvents) landed arrived := by
  have htrace : (protocol {}).Trace Call.Plays (Fixed stairs) climbing arrivingEvents arrived :=
    trace_script (fixed_sourceOf stairs) (by simp)
  have hsaved : ∀ e ∈ arrivingEvents, (saved? e).all fun choice => ⟨e.number, choice⟩ ∈ [older, newer] := by
    decide +kernel
  refine h.goOn htrace fun e he choice hchoice => hlanded _ ?_
  have hin := hsaved e he
  rw [hchoice] at hin
  exact of_decide_eq_true hin

theorem saved_unless_overtaken_in_order :
    SavingRun {} stairs ⟨ofCatalog taleCatalog, []⟩ (arrivingEvents ++ climbingEvents) [newer, older] arrived ∧
      arrived.Quiet ∧ lastChoice? ⟨"a"⟩ (arrivingEvents ++ climbingEvents) = some ⟨"S3"⟩ ∧
      arrived.state.place? ⟨"a"⟩ = some ⟨"S3"⟩ ∧ ¬ Overtaken ⟨"a"⟩ [newer, older] ∧
      (stored [] [newer, older]).get? ⟨"a"⟩ = arrived.state.place? ⟨"a"⟩ := by
  have hrun : SavingRun {} stairs ⟨ofCatalog taleCatalog, []⟩ (arrivingEvents ++ climbingEvents)
      [newer, older] arrived :=
    ((savingRun_climbing.save (l := older) (by simp) (by simp)).save (l := newer) (by simp)
      (by simp [older, newer])).arrive (by simp)
  have hquiet : arrived.Quiet := by unfold Flight.Quiet; decide +kernel
  have hlast : lastChoice? ⟨"a"⟩ (arrivingEvents ++ climbingEvents) = some ⟨"S3"⟩ := by decide +kernel
  have hnot : ¬ Overtaken ⟨"a"⟩ [newer, older] := not_overtaken_of_in_order (by decide)
  exact ⟨hrun, hquiet, hlast, by decide +kernel, hnot,
    (saved_unless_overtaken hrun hquiet hlast []).2 hnot⟩

/-- Two stories whose markers share a file. -/
def shared : Outside where
  source := .memory [
    ("sec/screen_registry.json",
      "\x7b\"start_screen\":\"story_a\",\"screens\":\x7b\"story_a\":\x7b\x7d,\"story_./a\":\x7b\x7d\x7d\x7d"),
    ("a.json", "\x7b\"start\":\"S1\",\"scenes\":\x7b\"S1\":\x7b\"options\":[\x7b\"to\":\"S2\"\x7d]\x7d," ++
      "\"S2\":\x7b\"options\":[\x7b\"to\":\"S3\"\x7d]\x7d,\"S3\":\x7b\x7d\x7d\x7d")] []
  store := .files "saves"

/-- The reader goes on twice in one of them, and once in the other. -/
def sharing : Session :=
  .played {} (.fresh (.ofList [(⟨"a"⟩, "a.json"), (⟨"./a"⟩, "a.json")]) shared)
    [.boot none, .choose 0, .choose 0, .go "story_./a", .choose 0]

/-- The older of two saves takes effect last; and over files, another story takes the marker of the first. -/
theorem overtaken_by_another_save :
    (SavingRun {} stairs ⟨ofCatalog taleCatalog, []⟩ (arrivingEvents ++ climbingEvents) [older, newer] arrived ∧
      arrived.Quiet ∧ lastChoice? ⟨"a"⟩ (arrivingEvents ++ climbingEvents) = some ⟨"S3"⟩ ∧
      arrived.state.place? ⟨"a"⟩ = some ⟨"S3"⟩ ∧ (stored [] [older, newer]).get? ⟨"a"⟩ = some ⟨"S2"⟩) ∧
    sharing.app.place? ⟨"a"⟩ = some ⟨"S3"⟩ ∧
      sharing.outside.loadPlace ⟨"a"⟩ = .error (.foreignMarker "saves/a.position.json" ⟨"./a"⟩) := by
  have hrun : SavingRun {} stairs ⟨ofCatalog taleCatalog, []⟩ (arrivingEvents ++ climbingEvents)
      [older, newer] arrived :=
    ((savingRun_climbing.save (l := newer) (by simp) (by simp)).save (l := older) (by simp)
      (by simp [older, newer])).arrive (by simp)
  exact ⟨⟨hrun, by unfold Flight.Quiet; decide +kernel, by decide +kernel⟩, by decide +kernel⟩

end Gamebook.App
