import Gamebook.Proofs.App.Ages
import Gamebook.Proofs.App.Answers
import Gamebook.Proofs.App.Places
import Gamebook.Proofs.Storybook.Offsets

/-! Where in a scene the reader is. No step of a call scrolls a panel, except the end of a save, which takes it to
its top: `unscrolled_begin`, `unscrolled_resume` and `offset_saved`. A reader who scrolled and then makes a choice
therefore begins the next scene at its top, unless he leaves the screen before the choice is saved: in that case
the scene begins where he was in the one before. -/
namespace Gamebook

open Act Protocol

/-- What someone who plays can do: to make a call, or to scroll a panel. -/
inductive Doing
  | call (call : Call)
  | scroll (screen : ScreenId) (top : Nat)
  deriving DecidableEq

namespace Doing

def Plays : Doing → Prop
  | .call k => k.Plays
  | .scroll _ _ => True

def Calls : Doing → Prop
  | .call k => k.Plays
  | .scroll _ _ => False

end Doing

namespace App

variable {c : Settings} {a : App}

def scroll (screen : ScreenId) (top : Nat) : Act App Unit :=
  Act.modify fun a => { a with stage := (a.stage.scroll screen top).1 }

def commence (c : Settings) : Doing → Act App (Progress Waiting Answer)
  | .call call => begin c call
  | .scroll screen top => do
    scroll screen top
    return .done .nothing

/-- Calls to a player, between which the reader may scroll. -/
def scrollable (c : Settings) : Protocol App Doing Waiting Answer := { protocol c with begin := commence c }

theorem sheds_of_went {s : Staged Navigation} {made : Made (Staged Navigation) (Progress Fitting (Option ScreenId))}
    (h : Navigation.Went c.navigation s made) : s.stage.Sheds made.state.stage := by
  cases h with
  | refused => exact Stage.way_sheds.refl _
  | departed _ _ _ _ hd => exact .of_panel hd.panel
  | arrived _ _ _ _ hd => exact .of_panel fun j => (Stage.panel?_replaceRegions ..).trans (hd.panel j)

theorem sheds_fitting (w : Fitting) (reply : w.request.Reply) (s : Stage) : s.Sheds (w.resume reply s).state := by
  rw [Fitting.resume_state]
  split
  · exact .of_panel fun j => Stage.panel?_replaceRegions ..
  · exact Stage.way_sheds.refl _

theorem travels_sheds : Travels c fun a b => a.stage.Sheds b.stage where
  refl a := Stage.way_sheds.refl a.stage
  trans h h' := Stage.way_sheds.trans h h'
  taken a _ := Stage.way_sheds.refl a.stage
  enter change a := Storybook.sheds_enter c.navigation change a.stories
  roster a _ := Stage.way_sheds.refl a.stage
  catalog a _ := Stage.way_sheds.refl a.stage
  boots a _ _ := Stage.way_sheds.refl a.stage
  went h := sheds_of_went h
  settle w reply a := by
    simp only [navigating, within_apply, Navigation.settle_state]
    exact sheds_fitting w reply a.stage
  mount v a := Storybook.sheds_mount v a.stories
  fit w reply a := sheds_fitting w reply a.stage
  loaded a registry := .of_panel (Stage.ensureAll_same a.stage registry.ids).2.2.2.1

theorem unscrolled_begin (call : Call) (a : App) : a.stage.Unscrolled (begin c call a).state.stage := by
  rcases travels_sheds.begin (c := c) call a with h | ⟨made, hchooses, hb⟩
  · exact Stage.Sheds.unscrolled h
  · rw [hb]
    exact Storybook.unscrolled_of_chooses hchooses

theorem unscrolled_resume {w : Waiting} (hw : w.saving? = none) (reply : w.request.Reply) (a : App) :
    a.stage.Unscrolled (resume c w reply a).state.stage := by
  cases travels_sheds.resume (c := c) w reply a with
  | along _ h => exact Stage.Sheds.unscrolled h
  | mounted x _ h => exact (x.asked.unscrolled c.story x.reply a.stories).sheds h
  | saved s r hs => cases hw.symm.trans hs

theorem resume_of_saving {w : Waiting} {s : Saving} (hw : w.saving? = some s) (reply : w.request.Reply) (a : App) :
    ∃ r : s.request.Reply, (resume c w reply a).state = (reading (s.resume r) a).state := by
  match w, hw, reply with
  | .saving s, rfl, reply => exact ⟨reply, rfl⟩
  | .tapping (.choosing s), rfl, reply => exact ⟨reply, rfl⟩

/-- A choice on a screen is saved, and the reader did not leave the screen since. -/
def Rewinds (screen : ScreenId) (e : (scrollable c).Event) : Prop :=
  ∃ x w, e.exchange? = some x ∧ x.asked.saving? = some w ∧ w.visit.screen = screen ∧
    e.before.state.stage.isCurrent w.visit.generation screen = true

def Bares (screen : ScreenId) (story : StoryId) (e : (scrollable c).Event) : Prop :=
  ∀ p, e.after.state.stage.panel? screen = some p → p.story ≠ story

def Clears (screen : ScreenId) (story : StoryId) (e : (scrollable c).Event) : Prop :=
  Rewinds screen e ∨ Bares screen story e

section Traces

variable {answers : (r : Request) → r.Reply → Prop} {screen : ScreenId} {story : StoryId}
variable {e : (scrollable c).Event} {es : List (scrollable c).Event} {start f : (scrollable c).Flight}

theorem offset_of_unscrolled {b : App} (h : a.stage.Unscrolled b.stage)
    (hp : ∃ p, b.stage.panel? screen = some p ∧ p.story = story) :
    b.stage.offset screen story = a.stage.offset screen story := by
  obtain ⟨p, hp, rfl⟩ := hp
  exact h.offset_eq hp

variable (screen story) in
theorem offset_of_happens (he : e.Happens Doing.Calls answers) :
    (Clears screen story e → e.after.state.stage.offset screen story = 0) ∧
      (¬ Clears screen story e →
        e.after.state.stage.offset screen story = e.before.state.stage.offset screen story) := by
  have hbare : Bares screen story e → e.after.state.stage.offset screen story = 0 := Stage.offset_eq_zero
  have hshown : ¬ Clears screen story e →
      ∃ p, e.after.state.stage.panel? screen = some p ∧ p.story = story := by
    intro h
    simpa [Bares] using fun hb => h (.inr hb)
  cases he with
  | @begin f doing hcalls =>
    cases doing with
    | scroll => exact hcalls.elim
    | call call =>
      refine ⟨fun h => ?_, fun h => offset_of_unscrolled (unscrolled_begin call f.state) (hshown h)⟩
      rcases h with ⟨x, w, hx, -⟩ | h
      · cases hx
      · exact hbare h
  | @resume s before after course w reply hw hready hreply =>
    cases hs : w.saving? with
    | none =>
      refine ⟨fun h => ?_, fun h => offset_of_unscrolled (unscrolled_resume hs reply s) (hshown h)⟩
      rcases h with ⟨x, v, hx, hv, -⟩ | h
      · obtain rfl := Option.some.inj hx
        cases hs.symm.trans hv
      · exact hbare h
    | some v =>
      obtain ⟨r, hstate⟩ := resume_of_saving (c := c) hs reply s
      have hoffset : (resume c w reply s).state.stage.offset screen story =
          if v.visit.screen = screen ∧ s.stage.isCurrent v.visit.generation screen = true then 0
          else s.stage.offset screen story := by
        rw [hstate]
        exact v.offset_resume r s.stories screen story
      refine ⟨fun h => ?_, fun h => ?_⟩
      · rcases h with ⟨x, v', hx, hv', hscreen, hcurrent⟩ | h
        · obtain rfl := Option.some.inj hx
          obtain rfl := Option.some.inj (hs.symm.trans hv')
          exact hoffset.trans (if_pos ⟨hscreen, hcurrent⟩)
        · exact hbare h
      · exact hoffset.trans (if_neg fun hv => h (.inl ⟨_, v, rfl, hs, hv.1, hv.2⟩))

variable (screen story) in
/-- Once cleared, the offset stays so while nothing is scrolled. -/
theorem offset_of_trace (h : (scrollable c).Trace Doing.Calls answers start es f) :
    ((∃ e ∈ es, Clears screen story e) → f.state.stage.offset screen story = 0) ∧
      ((∀ e ∈ es, ¬ Clears screen story e) →
        f.state.stage.offset screen story = start.state.stage.offset screen story) := by
  induction h with
  | start => exact ⟨fun ⟨e, he, _⟩ => absurd he List.not_mem_nil, fun _ => rfl⟩
  | @step es e _ he ih =>
    obtain ⟨hclears, hkeeps⟩ := offset_of_happens screen story he
    refine ⟨fun ⟨e', hmem, hclear⟩ => ?_, fun hnone => ?_⟩
    · by_cases hhere : Clears screen story e
      · exact hclears hhere
      · rw [hkeeps hhere]
        rcases List.mem_cons.1 hmem with rfl | hmem
        · exact absurd hclear hhere
        · exact ih.1 ⟨e', hmem, hclear⟩
    · obtain ⟨hhere, hbefore⟩ := List.forall_mem_cons.1 hnone
      exact (hkeeps hhere).trans (ih.2 hbefore)

theorem later_of_scrollable (h : (scrollable c).Trace Doing.Calls answers start es f) :
    start.state.stage.Later f.state.stage := by
  induction h with
  | start => exact .refl _
  | step _ he ih =>
    refine ih.trans ?_
    cases he with
    | @begin f doing hcalls =>
      cases doing with
      | scroll => exact hcalls.elim
      | call call => exact ages_begin call f.state
    | @resume s _ _ _ w reply => exact ages_resume w reply s

end Traces

section Runs

variable {answers : (r : Request) → r.Reply → Prop} {catalog : Catalog}

theorem advanced_scroll {told : Multiset Taken} {queue : List ScreenChange} {others : Multiset Waiting}
    (h : Aloft answers c catalog told queue others a) (screen : ScreenId) (top : Nat) :
    Advanced answers c catalog told others a (scroll screen top a).state 0 := by
  have hscrolled : Aloft answers c catalog told queue (0 + others) (scroll screen top a).state := by
    rw [zero_add]
    exact ⟨h.kept.of_same rfl rfl rfl rfl rfl rfl (h.kept.tells.shown.scroll screen top) h.kept.tells.sourced,
      h.regular, h.seated.of_same rfl rfl rfl⟩
  exact hscrolled.advanced rfl rfl

theorem aloft_of_scrollable {log : List (App × App)} {f : (scrollable c).Flight}
    (h : (scrollable c).Run Doing.Plays answers ⟨ofCatalog catalog, []⟩ log f) :
    ∃ queue, Aloft answers c catalog ↑(history log) queue f.pending f.state := by
  refine Run.induction (P := scrollable c)
    (motive := fun log a pending => ∃ queue, Aloft answers c catalog ↑(history log) queue pending a)
    ⟨[], aloft_start⟩ ?_ ?_ h
  · rintro log a others doing hplays ⟨queue, h⟩
    cases doing with
    | call call => exact (advanced_begin hplays h).aloft
    | scroll screen top => exact (advanced_scroll h screen top).aloft
  · rintro log a others w reply hready hreply ⟨queue, h⟩
    exact (advanced_resume h hready hreply).aloft

theorem display_of_saving {call : Call} (hcall : call.Plays) {w : Saving}
    (hw : (begin c call a).value.saving? = some w) :
    ∃ m, a.storybook.mounted = some m ∧ a.stage.active = some m.screen ∧
      w.visit = ⟨m.story, m.screen, a.stage.generation⟩ ∧
      (begin c call a).state.stage = Storybook.display c.story m w.target a.stage := by
  have hnone : ∀ {ω β : Type} {tag : ω → Waiting} {answer : β → Answer} {q : Progress ω β},
      (∀ v, (tag v).saving? = none) → (q.map tag answer).saving? ≠ some w := by
    intro ω β tag answer q htag hw
    cases (saving?_map htag answer q).symm.trans hw
  have hwaiting : ∀ {tag : Saving → Waiting} {answer : Option NodeId → Answer} {q : Progress Saving (Option NodeId)},
      (∀ v, (tag v).saving? = some v) → (q.map tag answer).saving? = some w → q = .waiting w := by
    intro tag answer q htag hw
    cases q with
    | done => cases hw
    | waiting v => exact congrArg _ (Option.some.inj ((htag v).symm.trans hw))
  cases call with
  | boot link => exact absurd hw (hnone fun _ => rfl)
  | go raw => exact absurd hw (hnone fun _ => rfl)
  | pump => exact absurd hw (hnone fun _ => rfl)
  | choose slot =>
    exact Storybook.display_of_chooses (Storybook.chooses_choose c.story slot a.stories) (hwaiting (fun _ => rfl) hw)
  | tap p =>
    cases hslot : Storybook.slotAt? ⟨a.stage, a.storybook⟩ p with
    | some slot =>
      have hchooses := Storybook.chooses_selectAt c.story p a.stories
      simp only [begin, tap, bind_apply, get_apply, hslot, pure_apply, Progress.map_map] at hw ⊢
      exact Storybook.display_of_chooses hchooses (hwaiting (fun _ => rfl) hw)
    | none =>
      cases hv : (navigating (Navigation.dispatch c.navigation .up p) a).value with
      | waiting v =>
        simp only [begin, tap, bind_apply, get_apply, hslot, hv, pure_apply] at hw
        cases hw
      | done outcome =>
        simp only [begin, tap, thenPumpTap, bind_apply, get_apply, hslot, hv, pure_apply, Progress.map_map] at hw
        exact absurd hw (hnone fun _ => rfl)
  | _ => exact hcall.elim

variable {f₀ f : (scrollable c).Flight} {call : Call} {w : Saving} {es : List (scrollable c).Event}

/-- A choice takes the reader to the top when it has been saved, if its call goes on in the generation in which it
was begun. -/
theorem exists_rewinds (hcall : call.Plays) (hw : (begin c call f₀.state).value.saving? = some w)
    (h : (scrollable c).Trace Doing.Calls answers (Event.begun (scrollable c) f₀ (.call call)).after es f)
    (hquiet : f.Quiet) (hstays : ∀ e ∈ es, e.number = f₀.courses.length →
      e.before.state.stage.generation = f₀.state.stage.generation) :
    ∃ e ∈ es, Rewinds w.visit.screen e := by
  obtain ⟨m, -, hactive, hvisit, hstage⟩ := display_of_saving hcall hw
  obtain ⟨v, hv, hvw⟩ : ∃ v, (begin c call f₀.state).value = .waiting v ∧ v.saving? = some w := by
    cases hvalue : (begin c call f₀.state).value with
    | done => rw [hvalue] at hw; cases hw
    | waiting v => exact ⟨v, rfl, by rw [hvalue] at hw; exact hw⟩
  rcases h.resumed_or_same (Event.course?_begun (P := scrollable c) f₀ (.call call)) hv with
    ⟨e, he, hnumber, reply, hexchange⟩ | hsame
  · refine ⟨e, he, _, w, hexchange, hvw, rfl, ?_⟩
    obtain ⟨later, earlier, rfl⟩ := List.append_of_mem he
    -- the generation has not changed, and so the screen has not
    have hlater : (begin c call f₀.state).state.stage.Later e.before.state.stage := later_of_scrollable h.cut.1
    rw [hstage] at hlater
    have hgeneration := hstays e he hnumber
    rw [Stage.isCurrent_iff, hvisit]
    refine ⟨hgeneration, ?_⟩
    rcases hlater with hlt | ⟨-, hsame⟩
    · exact absurd hlt (Nat.not_lt_of_le hgeneration.le)
    · exact hsame.trans hactive
  · have hdone := hquiet _ (List.mem_of_getElem? hsame)
    have hstanding : (begin c call f₀.state).value.isDone = true := hdone
    rw [hv] at hstanding
    cases hstanding

/-- A choice ends at the top of its scene unless the reader leaves the screen before it is saved. In any case
the scene is where it was before the choice, until a choice on the screen is saved in time or the panel is
taken off. -/
theorem choice_ends_at_the_top_unless_left {log : List (App × App)} {screen : ScreenId} {p : Stage.Panel}
    (hrun : (scrollable c).Run Doing.Plays answers ⟨ofCatalog catalog, []⟩ log f₀) (hcall : call.Plays)
    (hw : (begin c call f₀.state).value.saving? = some w)
    (h : (scrollable c).Trace Doing.Calls answers (Event.begun (scrollable c) f₀ (.call call)).after es f)
    (hquiet : f.Quiet) (hp : f.state.stage.panel? screen = some p) (hstory : p.story = w.visit.story) :
    ((∀ e ∈ es, e.number = f₀.courses.length → e.before.state.stage.generation = f₀.state.stage.generation) →
      p.scrollTop = 0) ∧
    ((∃ e ∈ es, Clears screen p.story e) → p.scrollTop = 0) ∧
    ((∀ e ∈ es, ¬ Clears screen p.story e) → p.scrollTop = f₀.state.stage.offset screen p.story) ∧
    (screen ≠ w.visit.screen → p.scrollTop = 0) := by
  obtain ⟨m, hm, -, hvisit, hstage⟩ := display_of_saving hcall hw
  obtain ⟨queue, haloft⟩ := aloft_of_scrollable hrun
  obtain ⟨hcleared, hkept⟩ := offset_of_trace screen p.story h
  have hend : f.state.stage.offset screen p.story = p.scrollTop := Stage.offset_of_panel hp
  have hbegun : (begin c call f₀.state).state.stage.offset screen p.story =
      f₀.state.stage.offset screen p.story := by
    rw [hstage, hstory, hvisit]
    exact Storybook.offset_display ..
  -- no other screen had a panel when the choice was made
  have helse : screen ≠ w.visit.screen → p.scrollTop = 0 := by
    intro hne
    by_cases hclears : ∃ e ∈ es, Clears screen p.story e
    · exact hend.symm.trans (hcleared hclears)
    · rw [← hend, hkept fun e he hc => hclears ⟨e, he, hc⟩]
      refine hbegun.trans (Stage.offset_eq_zero fun q hq => ?_)
      obtain ⟨m', hm', hscreen, -⟩ := haloft.kept.tells.shown.panel hq
      obtain rfl := Option.some.inj (hm.symm.trans hm')
      rw [hvisit] at hne
      exact absurd hscreen.symm hne
  refine ⟨fun hstays => ?_, fun hclears => hend.symm.trans (hcleared hclears),
    fun hnone => hend.symm.trans ((hkept hnone).trans hbegun), helse⟩
  by_cases hscreen : screen = w.visit.screen
  · obtain ⟨e, he, hrewinds⟩ := exists_rewinds hcall hw h hquiet hstays
    exact hend.symm.trans (hcleared ⟨e, he, .inl (hscreen ▸ hrewinds)⟩)
  · exact helse hscreen

end Runs

/-- The player boots, and the reader scrolls down in the first scene. -/
def scrolledDown : (scrollable {}).Flight :=
  Flight.play (P := scrollable {}) (sourceOf taleDocs) ⟨ofCatalog taleCatalog, []⟩
    [.begin (.call (.boot none)), .resume 0, .resume 0, .resume 0, .begin (.scroll ⟨"story_a"⟩ 40)]

def choosing : (scrollable {}).Flight := (Event.begun (scrollable {}) scrolledDown (.call (.choose 0))).after

/-- He taps where nothing is, the choice is saved, and he goes to the same screen again. -/
def laterMoves : List (Move Doing) :=
  [.begin (.call (.tap ⟨0, 0⟩)), .resume 2, .begin (.call (.go "story_a")), .resume 4]

/-- He goes to the same screen again before the choice is saved. -/
def againMoves : List (Move Doing) := [.begin (.call (.go "story_a")), .resume 3, .resume 2]

def afterChoice (moves : List (Move Doing)) : (scrollable {}).Flight := choosing.play (sourceOf taleDocs) moves

def eventsAfterChoice (moves : List (Move Doing)) : List (scrollable {}).Event :=
  choosing.events (sourceOf taleDocs) moves

def choiceTaken? : Progress Waiting Answer → Option NodeId
  | .done (.node node) => node
  | _ => none

theorem run_scrolledDown : ∃ log, (scrollable {}).Run Doing.Plays (Fixed taleDocs) ⟨ofCatalog taleCatalog, []⟩
    log scrolledDown :=
  exists_run_play (fixed_sourceOf taleDocs) (by simp [Doing.Plays, Call.Plays]) .start

theorem choice_ends_at_the_top_unless_left_going_later :
    (∃ log, (scrollable {}).Run Doing.Plays (Fixed taleDocs) ⟨ofCatalog taleCatalog, []⟩ log scrolledDown) ∧
    (scrollable {}).Trace Doing.Calls (Fixed taleDocs) choosing (eventsAfterChoice laterMoves)
      (afterChoice laterMoves) ∧
    (afterChoice laterMoves).Quiet ∧ scrolledDown.state.stage.offset ⟨"story_a"⟩ ⟨"a"⟩ = 40 ∧
    ∃ p, (afterChoice laterMoves).state.stage.panel? ⟨"story_a"⟩ = some p ∧ p.node = ⟨"S2"⟩ ∧ p.scrollTop = 0 := by
  obtain ⟨log, hrun⟩ := run_scrolledDown
  have htrace : (scrollable {}).Trace Doing.Calls (Fixed taleDocs) choosing (eventsAfterChoice laterMoves)
      (afterChoice laterMoves) :=
    trace_script (fixed_sourceOf taleDocs) (by simp [laterMoves, Doing.Calls, Call.Plays])
  have hquiet : (afterChoice laterMoves).Quiet := by unfold Flight.Quiet; decide +kernel
  have hpanel : ((afterChoice laterMoves).state.stage.panel? ⟨"story_a"⟩).map (fun p => (p.story, p.node)) =
      some (⟨"a"⟩, ⟨"S2"⟩) := by decide +kernel
  have hsaving : (begin {} (.choose 0) scrolledDown.state).value.saving?.map (·.visit.story) = some ⟨"a"⟩ := by
    decide +kernel
  have hstays : ∀ e ∈ eventsAfterChoice laterMoves, e.number = scrolledDown.courses.length →
      e.before.state.stage.generation = scrolledDown.state.stage.generation := by decide +kernel
  obtain ⟨p, hp, hboth⟩ := Option.map_eq_some_iff.1 hpanel
  obtain ⟨hstory, hnode⟩ := Prod.mk.inj hboth
  obtain ⟨w, hw, hvisit⟩ := Option.map_eq_some_iff.1 hsaving
  have hcall : (Call.choose 0).Plays := trivial
  have htop := (choice_ends_at_the_top_unless_left hrun hcall hw htrace hquiet hp (hstory.trans hvisit.symm)).1 hstays
  exact ⟨⟨log, hrun⟩, htrace, hquiet, by decide +kernel, p, hp, hnode, htop⟩

/-- Whoever goes to the screen again before the choice is saved stays where he was in the scene before. -/
theorem choice_ends_where_it_was_made :
    (∃ log, (scrollable {}).Run Doing.Plays (Fixed taleDocs) ⟨ofCatalog taleCatalog, []⟩ log scrolledDown) ∧
    (scrollable {}).Trace Doing.Calls (Fixed taleDocs) choosing (eventsAfterChoice againMoves)
      (afterChoice againMoves) ∧
    (afterChoice againMoves).Quiet ∧
    ((afterChoice againMoves).courses[2]?.bind fun course => choiceTaken? course.standing) = some ⟨"S2"⟩ ∧
    ((afterChoice againMoves).state.stage.panel? ⟨"story_a"⟩).map (fun p => (p.story, p.node, p.scrollTop)) =
      some (⟨"a"⟩, ⟨"S2"⟩, 40) := by
  have htrace : (scrollable {}).Trace Doing.Calls (Fixed taleDocs) choosing (eventsAfterChoice againMoves)
      (afterChoice againMoves) :=
    trace_script (fixed_sourceOf taleDocs) (by simp [againMoves, Doing.Calls, Call.Plays])
  have hquiet : (afterChoice againMoves).Quiet := by unfold Flight.Quiet; decide +kernel
  exact ⟨run_scrolledDown, htrace, hquiet, by decide +kernel, by decide +kernel⟩

end App
end Gamebook
