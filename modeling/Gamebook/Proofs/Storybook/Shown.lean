import Gamebook.Proofs.Storybook.Steps

/-! What is shown agrees with what is mounted. There is a panel just for the mounted story, on its screen,
with a scene of its graph and the reader's place in it, and the page is locked just then. Each operation
that shows a scene or takes panels off keeps this, provided that a scene is shown only on the screen that
has been left as the only one with a panel: that screen is `Focused`. -/
namespace Gamebook

/-- No story is mounted on another screen. -/
def Focused (screen : ScreenId) (s : Staged Storybook) : Prop :=
  ∀ m, s.part.mounted = some m → m.screen = screen

structure Shown (c : StorySettings) (s : Staged Storybook) : Prop where
  sound : s.stage.Sound
  locked : s.stage.scrollLocked = s.stage.hasPanel
  panel : ∀ {screen : ScreenId} {p : Stage.Panel}, s.stage.panel? screen = some p →
    ∃ m, s.part.mounted = some m ∧ m.screen = screen ∧ m.graph.contains p.node = true ∧
      s.part.places.get? m.story = some p.node ∧ p = Storybook.panel c m p.node p.scrollTop
  mounted : ∀ {m : Mounted}, s.part.mounted = some m → (s.stage.panel? m.screen).isSome = true

namespace Shown

open Storybook

variable {c : StorySettings} {s : Staged Storybook}

theorem panel?_eq_none (h : Shown c s) {screen j : ScreenId} (hf : Focused screen s) (hj : j ≠ screen) :
    s.stage.panel? j = none := by
  cases hp : s.stage.panel? j with
  | none => rfl
  | some p =>
    obtain ⟨m, hm, rfl, -⟩ := h.panel hp
    exact absurd (hf m hm) hj

theorem panel?_of_mounted_eq_none (h : Shown c s) (hm : s.part.mounted = none) (j : ScreenId) :
    s.stage.panel? j = none := by
  cases hp : s.stage.panel? j with
  | none => rfl
  | some p =>
    obtain ⟨m, hm', -⟩ := h.panel hp
    rw [hm] at hm'
    cases hm'

theorem scrollLocked_of_mounted_eq_none (h : Shown c s) (hm : s.part.mounted = none) :
    s.stage.scrollLocked = false := by
  rw [h.locked, Bool.eq_false_iff, Ne, Stage.hasPanel_iff h.sound]
  rintro ⟨j, hj⟩
  rw [h.panel?_of_mounted_eq_none hm] at hj
  cases hj

theorem of_same (h : Shown c s) {t : Staged Storybook} (hsound : t.stage.Sound)
    (hpanel : ∀ j, t.stage.panel? j = s.stage.panel? j)
    (hlock : t.stage.scrollLocked = s.stage.scrollLocked) (hplaces : t.part.places = s.part.places)
    (hmounted : t.part.mounted = s.part.mounted) : Shown c t where
  sound := hsound
  locked := by
    rw [hlock, h.locked, Bool.eq_iff_iff, Stage.hasPanel_iff h.sound, Stage.hasPanel_iff hsound]
    simp only [hpanel]
  panel := by
    intro screen p hp
    rw [hpanel] at hp
    rw [hmounted, hplaces]
    exact h.panel hp
  mounted := by
    intro m hm
    rw [hpanel]
    exact h.mounted (hmounted ▸ hm)

theorem of_bare (hsound : s.stage.Sound) (hpanel : ∀ j, s.stage.panel? j = none)
    (hlock : s.stage.scrollLocked = false) (hmounted : s.part.mounted = none) : Shown c s where
  sound := hsound
  locked := by
    rw [hlock, eq_comm, Bool.eq_false_iff, Ne, Stage.hasPanel_iff hsound]
    rintro ⟨j, hj⟩
    rw [hpanel] at hj
    cases hj
  panel := by
    intro screen p hp
    rw [hpanel] at hp
    cases hp
  mounted := by
    intro m hm
    rw [hmounted] at hm
    cases hm

theorem display (h : Shown c s) {m : Mounted} (node : NodeId) (hf : Focused m.screen s)
    (hin : m.graph.contains node = true) :
    Shown c ⟨display c m node s.stage,
      { s.part with places := s.part.places.put m.story node, mounted := some m }⟩ := by
  have hsound : (Storybook.display c m node s.stage).Sound := h.sound.mount _
  have hpanel : ∀ j, (Storybook.display c m node s.stage).panel? j =
      if m.screen = j then some (Storybook.panel c m node (scrollTop s.stage m)) else s.stage.panel? j :=
    fun j => Stage.panel?_mount s.stage m.screen j _
  refine ⟨hsound, ?_, fun {screen p} hp => ?_, fun {m'} hm => ?_⟩
  · have hhas := (Stage.hasPanel_iff hsound).2 ⟨m.screen, by rw [hpanel, if_pos rfl]; rfl⟩
    rw [hhas]
    rfl
  · rw [hpanel] at hp
    split at hp
    · rename_i hscreen
      obtain rfl := Option.some.inj hp
      exact ⟨m, rfl, hscreen, hin, Table.get?_put_self .., rfl⟩
    · rename_i hscreen
      rw [h.panel?_eq_none hf (Ne.symm hscreen)] at hp
      cases hp
  · obtain rfl := Option.some.inj hm
    rw [hpanel, if_pos rfl]
    rfl

theorem scroll (h : Shown c s) (screen : ScreenId) (top : Nat) :
    Shown c { s with stage := (s.stage.scroll screen top).1 } := by
  have hsound : (s.stage.scroll screen top).1.Sound := h.sound.scroll top
  have hpanel := fun j => Stage.panel?_scroll s.stage screen j top
  have hsome : ∀ j, ((s.stage.scroll screen top).1.panel? j).isSome = (s.stage.panel? j).isSome := by
    intro j
    rw [hpanel]
    split
    · rw [Option.isSome_map]
    · rfl
  refine ⟨hsound, ?_, fun {j p} hp => ?_, fun {m} hm => ?_⟩
  · show s.stage.scrollLocked = _
    rw [h.locked, Bool.eq_iff_iff, Stage.hasPanel_iff h.sound, Stage.hasPanel_iff hsound]
    simp only [hsome]
  · rw [hpanel] at hp
    split at hp
    · obtain ⟨q, hq, rfl⟩ := Option.map_eq_some_iff.1 hp
      obtain ⟨m, hm, hscreen, hin, hplace, heq⟩ := h.panel hq
      refine ⟨m, hm, hscreen, hin, hplace, ?_⟩
      rw [heq]
      rfl
    · exact h.panel hp
  · rw [hsome]
    exact h.mounted hm

theorem saved (h : Shown c s) (w : Saving) (reply : w.request.Reply) : Shown c (w.resume reply s).state := by
  rw [Saving.resume_state]
  split
  · exact h.scroll ..
  · exact h

end Shown

namespace Storybook

variable {c : StorySettings} {s : Staged Storybook}

theorem panel?_unmountExcept (hs : s.stage.Sound) (keep : Option ScreenId) (j : ScreenId) :
    (unmountExcept keep s).state.stage.panel? j = if some j = keep then s.stage.panel? j else none := by
  show Stage.panel? (List.foldl (fun stage (f : Stage.Surface) => (stage.unmount f.id).1) s.stage _) j = _
  rw [Stage.panel?_unmountAll]
  by_cases hj : some j = keep
  · rw [if_pos hj, if_neg]
    rintro hmem
    obtain ⟨f, hf, rfl⟩ := List.mem_map.1 hmem
    have hkeep := (List.mem_filter.1 hf).2
    simp only [Bool.and_eq_true, decide_eq_true_eq] at hkeep
    exact hkeep.2 hj
  · rw [if_neg hj]
    split
    · rfl
    · rename_i hout
      cases hp : s.stage.panel? j with
      | none => rfl
      | some p =>
        refine absurd ?_ hout
        obtain ⟨f, hf, rfl, hfp⟩ := (Stage.panel?_eq_some_iff hs).1 hp
        refine List.mem_map.2 ⟨f, List.mem_filter.2 ⟨hf, ?_⟩, rfl⟩
        simp [hfp, hj]

theorem unmountExcept_active (keep : Option ScreenId) :
    (unmountExcept keep s).state.stage.active = s.stage.active :=
  Stage.unmountAll_active _

theorem unmountExcept_generation (keep : Option ScreenId) :
    (unmountExcept keep s).state.stage.generation = s.stage.generation :=
  Stage.unmountAll_generation _

theorem unmountExcept_mounted_eq_some_iff (keep : Option ScreenId) (m : Mounted) :
    (unmountExcept keep s).state.part.mounted = some m ↔
      s.part.mounted = some m ∧ some m.screen = keep := by
  show Option.filter _ _ = some m ↔ _
  rw [Option.filter_eq_some_iff, decide_eq_true_eq]

theorem focused_unmountExcept (screen : ScreenId) :
    Focused screen (unmountExcept (some screen) s).state := by
  intro m hm
  exact Option.some.inj ((unmountExcept_mounted_eq_some_iff ..).1 hm).2

theorem shown_unmountExcept (h : Shown c s) (keep : Option ScreenId) :
    Shown c (unmountExcept keep s).state where
  sound := h.sound.unmountAll _
  locked := Stage.scrollLocked_unmountAll _ h.locked (h.sound.unmountAll _) h.sound
  panel := by
    intro screen p hp
    rw [panel?_unmountExcept h.sound] at hp
    split at hp
    · rename_i hkeep
      obtain ⟨m, hm, rfl, hrest⟩ := h.panel hp
      exact ⟨m, (unmountExcept_mounted_eq_some_iff ..).2 ⟨hm, hkeep⟩, rfl, hrest⟩
    · cases hp
  mounted := by
    intro m hm
    obtain ⟨hm, hkeep⟩ := (unmountExcept_mounted_eq_some_iff ..).1 hm
    rw [panel?_unmountExcept h.sound, if_pos hkeep]
    exact h.mounted hm

theorem unmountIfCurrent_state (v : Visit) :
    (unmountIfCurrent v s).state =
      if s.stage.isCurrent v.generation v.screen then
        { stage := ((s.stage.unmount v.screen).1).setScrollLocked false
          part := { s.part with mounted := none } }
      else s :=
  rfl

theorem shown_unmountIfCurrent (h : Shown c s) {v : Visit}
    (hf : s.stage.isCurrent v.generation v.screen = true → Focused v.screen s) :
    Shown c (unmountIfCurrent v s).state := by
  rw [unmountIfCurrent_state]
  split
  · rename_i hcur
    refine Shown.of_bare (h.sound.unmount.setScrollLocked false) (fun j => ?_) rfl rfl
    rw [Stage.panel?_setScrollLocked, Stage.panel?_unmount]
    split
    · rfl
    · rename_i hj
      exact h.panel?_eq_none (hf hcur) (Ne.symm hj)
  · exact h

theorem unmountIfCurrent_active (v : Visit) :
    (unmountIfCurrent v s).state.stage.active = s.stage.active := by
  rw [unmountIfCurrent_state]
  split
  · exact Stage.unmount_active ..
  · rfl

theorem unmountIfCurrent_generation (v : Visit) :
    (unmountIfCurrent v s).state.stage.generation = s.stage.generation := by
  rw [unmountIfCurrent_state]
  split
  · exact Stage.unmount_generation ..
  · rfl

theorem unmountIfCurrent_mounted (v : Visit) :
    (unmountIfCurrent v s).state.part.mounted =
      if s.stage.isCurrent v.generation v.screen then none else s.part.mounted := by
  rw [unmountIfCurrent_state]
  split <;> rfl

theorem shown_of_chooses (h : Shown c s)
    {made : Made (Staged Storybook) (Progress Saving (Option NodeId))} (hmade : Chooses c s made) :
    Shown c made.state := by
  cases hmade with
  | nothing => exact h
  | selects hs =>
    cases hs with
    | nothing => exact h
    | @chosen m target _ hm hstory ht =>
      have hshown := h.display (m := m) target
        (fun m' hm' => by rw [Option.some.inj (hm.symm.trans hm')]) (target?_eq_some ht).2.1
      rw [hstory] at hshown
      refine hshown.of_same hshown.sound (fun _ => rfl) rfl rfl ?_
      exact hm

/-- A choice touches nothing but the panel and the places. -/
theorem same_of_chooses {made : Made (Staged Storybook) (Progress Saving (Option NodeId))}
    (hmade : Chooses c s made) :
    made.state.stage.generation = s.stage.generation ∧ made.state.stage.active = s.stage.active ∧
      ∃ places, made.state.part = { s.part with places } := by
  cases hmade with
  | nothing => exact ⟨rfl, rfl, _, rfl⟩
  | selects hs =>
    cases hs with
    | nothing => exact ⟨rfl, rfl, _, rfl⟩
    | chosen => exact ⟨rfl, rfl, _, rfl⟩

end Storybook

theorem Saving.same_of_resume (w : Saving) (reply : w.request.Reply) (s : Staged Storybook) :
    (w.resume reply s).state.stage.generation = s.stage.generation ∧
      (w.resume reply s).state.stage.active = s.stage.active ∧ (w.resume reply s).state.part = s.part := by
  rw [Saving.resume_state]
  split <;> exact ⟨rfl, rfl, rfl⟩

end Gamebook
