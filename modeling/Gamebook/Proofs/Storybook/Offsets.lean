import Gamebook.Proofs.Keeps
import Gamebook.Proofs.Storybook.Shown

/-! How far panels are scrolled. A panel is taken off, or it is shown with the offset that the panel of the same
story had before it on its screen: the one relation is `Stage.Sheds`, the other `Stage.Unscrolled`. Only the end
of a save moves a panel to its top. -/
namespace Gamebook

namespace Stage

/-- How far the panel of a story is scrolled on a screen; a story that is not shown there begins at its top. -/
def offset (s : Stage) (screen : ScreenId) (story : StoryId) : Nat :=
  match s.panel? screen with
  | some p => if p.story = story then p.scrollTop else 0
  | none => 0

def Sheds (s t : Stage) : Prop := ∀ j p, t.panel? j = some p → s.panel? j = some p

/-- Every panel has the offset that its story had on its screen. -/
def Unscrolled (s t : Stage) : Prop := ∀ j p, t.panel? j = some p → p.scrollTop = s.offset j p.story

variable {s t u : Stage} {screen j : ScreenId} {story : StoryId} {p : Panel}

theorem offset_of_panel (h : s.panel? j = some p) : s.offset j p.story = p.scrollTop := by
  simp only [offset, h, if_pos]

theorem offset_eq_zero (h : ∀ p, s.panel? j = some p → p.story ≠ story) : s.offset j story = 0 := by
  unfold offset
  cases hp : s.panel? j with
  | none => rfl
  | some p => exact if_neg (h p hp)

theorem Sheds.of_panel (h : ∀ j, t.panel? j = s.panel? j) : s.Sheds t := fun j _ hp => (h j).symm.trans hp

theorem way_sheds : Act.Way Sheds := ⟨fun _ _ _ hp => hp, fun h h' j p hp => h j p (h' j p hp)⟩

theorem Sheds.unscrolled (h : s.Sheds t) : s.Unscrolled t :=
  fun j p hp => (offset_of_panel (h j p hp)).symm

theorem Unscrolled.sheds (h : s.Unscrolled t) (h' : t.Sheds u) : s.Unscrolled u :=
  fun j p hp => h j p (h' j p hp)

theorem Unscrolled.offset_eq (h : s.Unscrolled t) (hp : t.panel? j = some p) :
    t.offset j p.story = s.offset j p.story :=
  (offset_of_panel hp).trans (h j p hp)

theorem sheds_unmount (s : Stage) (screen : ScreenId) : s.Sheds (s.unmount screen).1 := by
  intro j p hp
  rw [panel?_unmount] at hp
  split at hp
  · cases hp
  · exact hp

theorem sheds_unmountAll (s : Stage) (fs : List Surface) :
    s.Sheds (fs.foldl (fun stage f => (stage.unmount f.id).1) s) := by
  intro j p hp
  rw [panel?_unmountAll] at hp
  split at hp
  · cases hp
  · exact hp

theorem offset_scroll_zero (s : Stage) (screen : ScreenId) (story : StoryId) :
    (s.scroll screen 0).1.offset screen story = 0 := by
  simp only [offset, panel?_scroll, if_pos]
  cases s.panel? screen with
  | none => rfl
  | some p => exact ite_self 0

theorem offset_scroll_of_ne (s : Stage) (top : Nat) (h : screen ≠ j) (story : StoryId) :
    (s.scroll screen top).1.offset j story = s.offset j story := by
  rw [offset, panel?_scroll, if_neg h]
  rfl

end Stage

namespace Storybook

variable {c : StorySettings} {s : Staged Storybook}

theorem sheds_unmountIfCurrent (v : Visit) (s : Staged Storybook) :
    s.stage.Sheds (unmountIfCurrent v s).state.stage := by
  rw [unmountIfCurrent_state]
  split
  · exact s.stage.sheds_unmount v.screen
  · exact Stage.way_sheds.refl _

theorem sheds_located (v : Visit) (locator : Option Locator) (s : Staged Storybook) :
    s.stage.Sheds (located v locator s).state.stage := by
  have h := located_located v locator s
  generalize located v locator s = made at h ⊢
  cases h with
  | missing => exact sheds_unmountIfCurrent v s
  | known => exact Stage.way_sheds.refl _
  | opening => exact Stage.way_sheds.refl _

theorem sheds_mount (v : Visit) (s : Staged Storybook) : s.stage.Sheds (mount v s).state.stage := by
  rw [mount_eq]
  cases s.part.catalog.found v.story with
  | done locator => exact sheds_located v locator s
  | waiting w => exact Stage.way_sheds.refl _

theorem sheds_enter (c : NavigationSettings) (ch : ScreenChange) (s : Staged Storybook) :
    s.stage.Sheds (enter c ch s).state.stage := by
  have h := enters_enter c ch s
  generalize enter c ch s = made at h ⊢
  cases h with
  | stale => exact Stage.way_sheds.refl _
  | plain => exact s.stage.sheds_unmountAll _
  | story => exact Stage.way_sheds.trans (s.stage.sheds_unmountAll _) (sheds_mount _ _)

/-- A scene takes over the offset of the scene before it. -/
theorem unscrolled_display (c : StorySettings) (m : Mounted) (node : NodeId) (stage : Stage) :
    stage.Unscrolled (display c m node stage) := by
  intro j p hp
  have hpanel : (display c m node stage).panel? j =
      if m.screen = j then some (panel c m node (scrollTop stage m)) else stage.panel? j :=
    Stage.panel?_mount ..
  rw [hpanel] at hp
  split at hp
  · rename_i hj
    subst hj
    obtain rfl := Option.some.inj hp
    rfl
  · exact (Stage.offset_of_panel hp).symm

theorem offset_display (c : StorySettings) (m : Mounted) (node : NodeId) (stage : Stage) (j : ScreenId) :
    (display c m node stage).offset j m.story = stage.offset j m.story := by
  have hpanel : (display c m node stage).panel? j =
      if m.screen = j then some (panel c m node (scrollTop stage m)) else stage.panel? j :=
    Stage.panel?_mount ..
  by_cases hj : m.screen = j
  · rw [if_pos hj] at hpanel
    exact (unscrolled_display c m node stage).offset_eq hpanel
  · rw [if_neg hj] at hpanel
    rw [Stage.offset, Stage.offset, hpanel]

theorem unscrolled_of_chooses {made : Made (Staged Storybook) (Progress Saving (Option NodeId))}
    (h : Chooses c s made) : s.stage.Unscrolled made.state.stage := by
  cases h with
  | nothing => exact (Stage.way_sheds.refl _).unscrolled
  | selects h =>
    cases h with
    | nothing => exact (Stage.way_sheds.refl _).unscrolled
    | chosen => exact unscrolled_display _ _ _ _

theorem display_of_chooses {made : Made (Staged Storybook) (Progress Saving (Option NodeId))} (h : Chooses c s made)
    {w : Saving} (hw : made.value = .waiting w) :
    ∃ m, s.part.mounted = some m ∧ s.stage.active = some m.screen ∧
      w.visit = ⟨m.story, m.screen, s.stage.generation⟩ ∧ made.state.stage = display c m w.target s.stage := by
  cases h with
  | nothing => cases hw
  | selects h =>
    cases h with
    | nothing => cases hw
    | @chosen m target _ hm hstory htarget =>
      obtain rfl := Progress.waiting.inj hw
      exact ⟨m, hm, (target?_eq_some htarget).1, by rw [hstory], rfl⟩

theorem unscrolled_settle (v : Visit) (graph : Option Story.Graph) (saved : Option NodeId) (s : Staged Storybook) :
    s.stage.Unscrolled (settle c v graph saved s).state.stage := by
  have h := settles_settle c v graph saved s
  generalize settle c v graph saved s = made at h ⊢
  cases h with
  | stale => exact (Stage.way_sheds.refl _).unscrolled
  | empty => exact (sheds_unmountIfCurrent v s).unscrolled
  | rendered => exact unscrolled_display _ _ _ _

end Storybook

theorem Mounting.unscrolled (c : StorySettings) (w : Mounting) (reply : w.request.Reply) (s : Staged Storybook) :
    s.stage.Unscrolled (w.resume c reply s).state.stage := by
  match w, reply with
  | .locating v w, reply => exact (Storybook.sheds_located v _ _).unscrolled
  | .opening v url, .error cause => exact (Stage.way_sheds.refl _).unscrolled
  | .opening v url, .ok doc =>
    obtain ⟨notices, h⟩ := Mounting.resume_opening c v url doc s
    rw [h]
    exact (Stage.way_sheds.refl _).unscrolled
  | .recalling v graph, .error cause => exact Storybook.unscrolled_settle v graph none s
  | .recalling v graph, .ok saved => exact Storybook.unscrolled_settle v graph saved s

namespace Saving

variable (w : Saving) (reply : w.request.Reply) (s : Staged Storybook)

/-- The end of a save takes the reader to the top of the screen, if nothing was navigated to meanwhile. -/
theorem offset_resume (j : ScreenId) (story : StoryId) :
    (w.resume reply s).state.stage.offset j story =
      if w.visit.screen = j ∧ s.stage.isCurrent w.visit.generation j = true then 0 else s.stage.offset j story := by
  rw [resume_state]
  by_cases hj : w.visit.screen = j
  · subst hj
    by_cases hcur : s.stage.isCurrent w.visit.generation w.visit.screen = true
    · rw [if_pos hcur, if_pos ⟨rfl, hcur⟩]
      exact Stage.offset_scroll_zero ..
    · rw [if_neg hcur, if_neg fun h => hcur h.2]
  · have hne : ¬ (w.visit.screen = j ∧ s.stage.isCurrent w.visit.generation j = true) := fun h => hj h.1
    rw [if_neg hne]
    split
    · exact Stage.offset_scroll_of_ne _ _ hj _
    · rfl

end Saving
end Gamebook
