import Gamebook.Proofs.App.Panel

/-! Choices. A choice that leads nowhere changes nothing; any other shows its scene at once, waits for the place
to be saved, and then takes the reader to the top. Where the slots of a panel lead is what the scene says:
`Stage.Panel.Tells.target?`. -/
namespace Gamebook

open Story (Graph)

theorem target_mem_ids_of_storyGraph? {docs : String → Except SourceFault Json.Value} {c : StorySettings}
    {first : Catalog} {story : StoryId} {g : Graph} (h : storyGraph? docs c first story = some g)
    {node : NodeId} {scene : Story.Scene} (hscene : g.scene? node = some scene) :
    ∀ choice ∈ scene.options, choice.target ∈ g.ids := by
  unfold storyGraph? at h
  split at h
  · obtain ⟨hg, -⟩ := Option.filter_eq_some_iff.1 h
    obtain ⟨doc, -, rfl⟩ := Option.map_eq_some_iff.1 hg
    exact Graph.target_mem_ids_dropDangling hscene
  · cases h

namespace Storybook

/-- The mounted story, and where a slot of it leads. -/
def chosen? (s : Staged Storybook) (slot : Nat) : Option (Mounted × NodeId) :=
  s.part.mounted.bind fun m => (target? s m slot).map fun target => (m, target)

variable {c : StorySettings} {slot : Nat} {s : Staged Storybook}

theorem choose_of_none (h : chosen? s slot = none) : choose c slot s = ⟨s, [], .done none⟩ := by
  unfold chosen? at h
  rw [choose, Act.bind_get]
  cases hm : s.part.mounted with
  | none => rfl
  | some m =>
    rw [hm, Option.bind_some, Option.map_eq_none_iff] at h
    simp [select, hm, h, Option.filter, Act.bind_get]

theorem chosen?_eq_some {m : Mounted} {target : NodeId} (h : chosen? s slot = some (m, target)) :
    s.part.mounted = some m ∧ target? s m slot = some target := by
  obtain ⟨m', hm, htarget⟩ := Option.bind_eq_some_iff.1 h
  obtain ⟨target', htarget, he⟩ := Option.map_eq_some_iff.1 htarget
  cases he
  exact ⟨hm, htarget⟩

theorem choose_of_some {m : Mounted} {target : NodeId} (h : chosen? s slot = some (m, target)) :
    choose c slot s =
      ⟨⟨display c m target s.stage, { s.part with places := s.part.places.put m.story target }⟩, [],
        .waiting ⟨⟨m.story, m.screen, s.stage.generation⟩, target⟩⟩ := by
  obtain ⟨hm, htarget⟩ := chosen?_eq_some h
  rw [choose, Act.bind_get, hm]
  have hfilter : (some m).filter (fun m' => decide (m'.story = m.story)) = some m := by simp [Option.filter]
  simp only [select, Act.bind_get, hm, hfilter, htarget]
  rw [← hm]
  rfl

end Storybook

/-- Whoever is still there when the place is saved is taken to the top of the scene. -/
theorem Saving.panel?_resume {c : StorySettings} {m : Mounted} {s : Staged Storybook}
    (hactive : s.stage.active = some m.screen) (target : NodeId) (part : Storybook)
    (reply : Except StoreFault Unit) :
    (Saving.resume ⟨⟨m.story, m.screen, s.stage.generation⟩, target⟩ reply
      ⟨Storybook.display c m target s.stage, part⟩).state.stage.panel? m.screen =
      some (Storybook.panel c m target 0) := by
  have hcurrent : (Storybook.display c m target s.stage).isCurrent s.stage.generation m.screen = true :=
    (Stage.isCurrent_iff ..).2 ⟨rfl, hactive⟩
  rw [Saving.resume_state]
  dsimp only
  rw [if_pos hcurrent, Stage.panel?_scroll, if_pos rfl, Storybook.display, Stage.panel?_mount, if_pos rfl]
  rfl

namespace App

variable {c : Settings} {slot : Nat} {a : App}

theorem begin_choose_of_none (h : Storybook.chosen? a.stories slot = none) :
    begin c (.choose slot) a = ⟨a, [], .done (.node none)⟩ := by
  have hchoose : Storybook.choose c.story slot ⟨a.stage, a.storybook⟩ = _ := Storybook.choose_of_none h
  simp only [begin, choose, reading, Act.bind_apply, Act.within_apply, Act.pure_apply, hchoose]
  rfl

theorem begin_choose_of_some {m : Mounted} {target : NodeId}
    (h : Storybook.chosen? a.stories slot = some (m, target)) :
    begin c (.choose slot) a =
      ⟨{ a with
          stage := Storybook.display c.story m target a.stage
          storybook := { a.storybook with places := a.storybook.places.put m.story target } }, [],
        .waiting (.saving ⟨⟨m.story, m.screen, a.stage.generation⟩, target⟩)⟩ := by
  have hchoose : Storybook.choose c.story slot ⟨a.stage, a.storybook⟩ = _ := Storybook.choose_of_some h
  simp only [begin, choose, reading, Act.bind_apply, Act.within_apply, Act.pure_apply, hchoose]
  rfl

end App

/-- What a slot of a panel leads to: one of the first four options of its scene. -/
theorem Stage.Panel.Tells.target? {c : StorySettings} {p : Stage.Panel} {m : Mounted}
    {places : Table StoryId NodeId} (h : p.Tells c m places) {s : Staged Storybook}
    (hactive : s.stage.active = some m.screen) (hp : s.stage.panel? m.screen = some p)
    (htargets : ∀ {node : NodeId} {scene : Story.Scene}, m.graph.scene? node = some scene →
      ∀ choice ∈ scene.options, choice.target ∈ m.graph.ids) (slot : Nat) :
    Storybook.target? s m slot =
      (m.graph.scene? p.node).bind fun scene => ((scene.options.take 4)[slot]?).map (·.target) := by
  obtain ⟨scene, hscene, -, -, hslots⟩ := h.scene
  rw [Storybook.target?, if_pos hactive, hp, hscene]
  simp only [Option.bind_eq_bind, Option.bind_some, hslots]
  cases hchoice : (scene.options.take 4)[slot]? with
  | some choice =>
    have hin : m.graph.contains choice.target = true :=
      (Graph.contains_iff ..).2
        (htargets hscene choice (List.mem_of_mem_take (List.mem_of_getElem? hchoice)))
    have hslot : ((scene.options.take Stage.slotCount).map fun choice : Story.Choice =>
        (⟨choice.label, some choice.target⟩ : Stage.Slot))[slot]? = some ⟨choice.label, some choice.target⟩ := by
      rw [List.getElem?_map]
      exact congrArg (Option.map _) hchoice
    rw [List.getElem?_append_left (List.getElem?_eq_some_iff.1 hslot).1, hslot]
    simp [hin]
  | none =>
    have hle : ((scene.options.take Stage.slotCount).map fun choice : Story.Choice =>
        (⟨choice.label, some choice.target⟩ : Stage.Slot)).length ≤ slot := by
      rw [List.length_map]
      exact List.getElem?_eq_none_iff.1 hchoice
    -- the slots that are left over have no target
    rw [List.getElem?_append_right hle, List.getElem?_replicate]
    split <;> rfl

end Gamebook
