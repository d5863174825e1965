import Gamebook.Proofs.App.Recall

/-! What counts as a story screen. Navigation remembers every screen whose name starts with the stem of stories;
the storybook mounts a story only if something is left of the name after the stem. The two agree on what a player
remembers as its last story, save for a screen named by the stem alone. -/
namespace Gamebook

namespace NavigationSettings

variable {c : NavigationSettings} {screen : ScreenId}

theorem isSome_storyOf?_iff (h : c.isStoryScreen screen = true) :
    (c.storyOf? screen).isSome = true ↔ screen.text ≠ c.storyStem := by
  obtain ⟨rest, hrest⟩ := Option.isSome_iff_exists.1 h
  have htext := afterStem?_eq_some_iff.1 hrest
  have hbare : screen.text = c.storyStem ↔ rest = "" := by
    rw [htext, ← String.toList_inj, ← String.toList_inj, String.toList_append]
    simp
  rw [storyOf?, hrest, Ne, hbare]
  by_cases hempty : rest = "" <;> simp [hempty]

end NavigationSettings

namespace App

open Screen (Alias)
open Navigation (travel)

variable {c : Settings} {catalog : Catalog} {allowed : Call → Prop} {answers : (r : Request) → r.Reply → Prop}
variable {es : List (protocol c).Event} {f : (protocol c).Flight} {screen : ScreenId}

theorem isStoryScreen_of_lastStory (h : (protocol c).Trace allowed answers ⟨ofCatalog catalog, []⟩ es f)
    (hlast : f.state.navigation.memory.lastStory = some screen) : c.navigation.isStoryScreen screen = true := by
  have hrecalled : Alias.story.recalled f.state.navigation.memory = some screen := hlast
  obtain ⟨ch, -, rfl, hcovers, -⟩ := (logged_of_trace h).exists_newest hrecalled
  exact Alias.covers_iff.1 hcovers

/-- Whether the storybook is to mount a story on the screen of a change, or to treat it as any other screen: then it
has nothing to report, and releases the lock. -/
theorem enter_plain_iff {stage : Stage} (book : Storybook) {generation : Nat}
    (hcurrent : stage.isCurrent generation screen = true) (hstory : c.navigation.isStoryScreen screen = true) :
    ((Storybook.enter c.navigation ⟨screen, generation⟩ ⟨stage, book⟩).value = .done none ↔
      screen.text = c.navigation.storyStem) ∧
    (screen.text = c.navigation.storyStem →
      (Storybook.enter c.navigation ⟨screen, generation⟩ ⟨stage, book⟩).state.stage.scrollLocked = false) := by
  have htells := NavigationSettings.isSome_storyOf?_iff hstory
  have henters := Storybook.enters_enter c.navigation ⟨screen, generation⟩ ⟨stage, book⟩
  generalize Storybook.enter c.navigation ⟨screen, generation⟩ ⟨stage, book⟩ = made at henters ⊢
  cases henters with
  | stale _ hlate =>
    exact absurd (hlate.symm.trans hcurrent) Bool.false_ne_true
  | plain _ _ hplain =>
    change c.navigation.storyOf? screen = none at hplain
    have hbare : screen.text = c.navigation.storyStem := by
      by_contra hne
      have htold := htells.2 hne
      rw [hplain] at htold
      cases htold
    exact ⟨⟨fun _ => hbare, fun _ => rfl⟩, fun _ => rfl⟩
  | story _ _ htold =>
    have hnot : screen.text ≠ c.navigation.storyStem := htells.1 (Option.isSome_of_eq_some htold)
    refine ⟨⟨fun hnone => ?_, fun hbare => absurd hbare hnot⟩, fun hbare => absurd hbare hnot⟩
    generalize (Storybook.mount _ _).value = mounting at hnone
    cases mounting <;> cases hnone

/-- What a player remembers as its last story is a screen that tells a story, unless it is named by the stem alone. So
whoever returns by the alias comes to a screen on which the storybook mounts a story, unless its name is that stem; then
it is taken for a screen without a story. -/
theorem last_story_is_told_unless_bare (h : (protocol c).Trace allowed answers ⟨ofCatalog catalog, []⟩ es f)
    (hlast : f.state.navigation.memory.lastStory = some screen) :
    ((c.navigation.storyOf? screen).isSome = true ↔ screen.text ≠ c.navigation.storyStem) ∧
    ∀ docs book, (travel c.navigation docs .lastStory f.state.chart).value = some screen →
      let stage := (travel c.navigation docs .lastStory f.state.chart).state.stage
      let entered := Storybook.enter c.navigation ⟨screen, stage.generation⟩ ⟨stage, book⟩
      (entered.value = .done none ↔ screen.text = c.navigation.storyStem) ∧
      (screen.text = c.navigation.storyStem → entered.state.stage.scrollLocked = false) := by
  have hstory := isStoryScreen_of_lastStory h hlast
  refine ⟨NavigationSettings.isSome_storyOf?_iff hstory, fun docs book htravel => ?_⟩
  have harrival := Navigation.arrival_of_travel htravel
  exact enter_plain_iff book ((Stage.isCurrent_iff ..).2 ⟨rfl, harrival.alone.active⟩) hstory

/-- From the yard back to the story. -/
theorem last_story_is_told_unless_bare_passing_the_story :
    (protocol {}).Trace (fun _ => True) (Fixed yardDocs) ⟨ofCatalog taleCatalog, []⟩ passingEvents passing ∧
    passing.state.navigation.memory.lastStory = some ⟨"story_a"⟩ ∧
    (({} : NavigationSettings).storyOf? ⟨"story_a"⟩).isSome = true ∧
    (travel {} (houseDocs []) .lastStory passing.state.chart).value = some ⟨"story_a"⟩ := by
  have hlast : passing.state.navigation.memory.lastStory = some ⟨"story_a"⟩ := by decide +kernel
  exact ⟨trace_passing, hlast, (last_story_is_told_unless_bare trace_passing hlast).1.2 (by decide), by decide +kernel⟩

/-- A house with a room that is named by the stem alone. The reader was in that room, and returns to it by the alias. -/
def bareEvents : List (protocol {}).Event :=
  Protocol.Flight.events (P := protocol {}) (sourceOf (houseDocs ["hall", "story_"])) ⟨ofCatalog taleCatalog, []⟩
    [.begin (.boot none), .resume 0, .begin (.go "story_"), .begin (.go "hall"), .begin (.go "last_story")]

def bare : (protocol {}).Flight :=
  Protocol.Flight.play (P := protocol {}) (sourceOf (houseDocs ["hall", "story_"])) ⟨ofCatalog taleCatalog, []⟩
    [.begin (.boot none), .resume 0, .begin (.go "story_"), .begin (.go "hall"), .begin (.go "last_story")]

theorem last_story_without_a_story :
    (protocol {}).Trace (fun _ => True) (Fixed (houseDocs ["hall", "story_"])) ⟨ofCatalog taleCatalog, []⟩
      bareEvents bare ∧
    bare.Quiet ∧ bare.state.stage.active = some ⟨"story_"⟩ ∧
    bare.state.navigation.memory.lastStory = some ⟨"story_"⟩ ∧
    ({} : NavigationSettings).storyOf? ⟨"story_"⟩ = none ∧
    (Storybook.enter {} ⟨⟨"story_"⟩, bare.state.stage.generation⟩ bare.state.stories).value = .done none := by
  refine ⟨Protocol.trace_script (fixed_sourceOf _) fun _ _ => trivial, ?_, by decide +kernel, by decide +kernel,
    by decide +kernel, by decide +kernel⟩
  unfold Protocol.Flight.Quiet
  decide +kernel

end App
end Gamebook
