import Gamebook.Proofs.App.Runs

/-! The panel and the story that is mounted, in every state that a player can come to. There is at most one
panel, it shows a scene of the mounted story, and the page is locked as long as it is there. Nothing is
asked of the outside for this. -/
namespace Gamebook

open Story (Choice)

namespace Storybook

theorem slots_eq (c : StorySettings) (options : List Choice) :
    slots c options =
      (options.take Stage.slotCount).map (fun choice => ⟨choice.label, some choice.target⟩) ++
        List.replicate (Stage.slotCount - options.length) ⟨c.disabledLabel, none⟩ := by
  match options with
  | [] => rfl
  | [_] => rfl
  | [_, _] => rfl
  | [_, _, _] => rfl
  | _ :: _ :: _ :: _ :: rest =>
    have hlength : Stage.slotCount - (rest.length + 1 + 1 + 1 + 1) = 0 := by
      show 4 - _ = 0
      omega
    simp only [List.length_cons, hlength]
    rfl

theorem length_slots (c : StorySettings) (options : List Choice) :
    (slots c options).length = Stage.slotCount := by
  simp [slots]

end Storybook

/-- What a panel says of the story it belongs to. -/
structure Stage.Panel.Tells (c : StorySettings) (p : Stage.Panel) (m : Mounted)
    (places : Table StoryId NodeId) : Prop where
  story : p.story = m.story
  place : places.get? m.story = some p.node
  scene : ∃ scene, m.graph.scene? p.node = some scene ∧
    p.html = (Story.Prose.ofText scene.text).html ∧
    p.paragraphs = (Story.Prose.ofText scene.text).paragraphs ∧
    p.slots = (scene.options.take Stage.slotCount).map (fun choice => ⟨choice.label, some choice.target⟩) ++
      List.replicate (Stage.slotCount - scene.options.length) ⟨c.disabledLabel, none⟩
  slots : p.slots.length = Stage.slotCount

theorem Shown.tells {c : StorySettings} {s : Staged Storybook} (h : Shown c s) {screen : ScreenId}
    {p : Stage.Panel} (hp : s.stage.panel? screen = some p) :
    ∃ m, s.part.mounted = some m ∧ m.screen = screen ∧ p.Tells c m s.part.places := by
  obtain ⟨m, hm, hscreen, hin, hplace, hpanel⟩ := h.panel hp
  obtain ⟨scene, hscene⟩ := Option.isSome_iff_exists.1 hin
  have hscene : m.graph.scene? p.node = some scene := hscene
  refine ⟨m, hm, hscreen, ?_, hplace, ⟨scene, hscene, ?_, ?_, ?_⟩, ?_⟩
  · rw [hpanel]
    rfl
  · rw [hpanel]
    simp only [Storybook.panel, hscene]
  · rw [hpanel]
    simp only [Storybook.panel, hscene]
  · rw [hpanel]
    simp only [Storybook.panel, hscene]
    exact Storybook.slots_eq c scene.options
  · rw [hpanel]
    exact Storybook.length_slots ..

namespace App

/-- The panels of a player, its mounted story and the lock of the page agree. -/
structure PanelAgrees (c : Settings) (a : App) : Prop where
  atMostOne : (a.stage.surfaces.values.filter (·.panel.isSome)).length ≤ 1
  mounted_iff : ∀ story screen, (∃ graph, a.storybook.mounted = some ⟨story, screen, graph⟩) ↔
    ∃ f ∈ a.stage.surfaces.values, f.id = screen ∧ ∃ p, f.panel = some p ∧ p.story = story
  locked_iff : a.stage.scrollLocked = true ↔ ∃ f ∈ a.stage.surfaces.values, f.panel.isSome = true
  tells : ∀ f ∈ a.stage.surfaces.values, ∀ p, f.panel = some p →
    ∃ m, a.storybook.mounted = some m ∧ m.screen = f.id ∧ p.Tells c.story m a.storybook.places

/-- The panel is that of the mounted story, so that there is no second one. -/
theorem length_panels_le {c : Settings} {a : App} (h : Shown c.story a.stories) :
    (a.stage.surfaces.values.filter (·.panel.isSome)).length ≤ 1 := by
  have hsound : a.stage.Sound := h.sound
  cases hall : a.stage.surfaces.values.filter (·.panel.isSome) with
  | nil => exact Nat.zero_le _
  | cons f rest =>
    have hf : f ∈ a.stage.surfaces.values.filter (·.panel.isSome) := hall ▸ List.mem_cons_self
    obtain ⟨hf, hsome⟩ := List.mem_filter.1 hf
    obtain ⟨p, hp⟩ := Option.isSome_iff_exists.1 hsome
    obtain ⟨m, hm, hscreen, -⟩ := h.tells ((Stage.panel?_eq_some_iff hsound).2 ⟨f, hf, rfl, hp⟩)
    have honly : ∀ {j g}, a.stage.surface? j = some g → g.panel.isSome = true → j = f.id := by
      intro j g hg hgsome
      obtain ⟨q, hq⟩ := Option.isSome_iff_exists.1 hgsome
      have hpanel : a.stage.panel? j = some q := Option.bind_eq_some_iff.2 ⟨g, hg, hq⟩
      obtain ⟨m', hm', hscreen', -⟩ := h.tells hpanel
      obtain rfl := Option.some.inj (hm.symm.trans hm')
      exact hscreen'.symm.trans hscreen
    rw [← hall, Table.filter_values_eq_singleton hsound.keys ((Stage.mem_surfaces_iff hsound f).1 hf) hsome
      honly]
    exact Nat.le_refl 1

theorem panelAgrees_of_shown {c : Settings} {a : App} (h : Shown c.story a.stories) : PanelAgrees c a := by
  have hsound : a.stage.Sound := h.sound
  refine ⟨length_panels_le h, fun story screen => ⟨?_, ?_⟩, ?_, fun f hf p hp => ?_⟩
  · rintro ⟨graph, hm⟩
    obtain ⟨p, hp⟩ := Option.isSome_iff_exists.1 (h.mounted hm)
    obtain ⟨m', hm', -, htells⟩ := h.tells hp
    obtain rfl := Option.some.inj (hm.symm.trans hm')
    obtain ⟨f, hf, hscreen, hfp⟩ := (Stage.panel?_eq_some_iff hsound).1 hp
    exact ⟨f, hf, hscreen, p, hfp, htells.story⟩
  · rintro ⟨f, hf, rfl, p, hp, rfl⟩
    obtain ⟨⟨story, screen, graph⟩, hm, rfl, htells⟩ :=
      h.tells ((Stage.panel?_eq_some_iff hsound).2 ⟨f, hf, rfl, hp⟩)
    have hstory : p.story = story := htells.story
    exact ⟨graph, by rw [hstory]; exact hm⟩
  · have hlocked : a.stage.scrollLocked = a.stage.hasPanel := h.locked
    rw [hlocked]
    exact List.any_eq_true
  · exact h.tells ((Stage.panel?_eq_some_iff hsound).2 ⟨f, hf, rfl, hp⟩)

theorem panel_agrees_of_run {answers : (r : Request) → r.Reply → Prop} {c : Settings} {catalog : Catalog}
    {log : List (App × App)} {f : (protocol c).Flight}
    (h : (protocol c).Run Call.Plays answers ⟨ofCatalog catalog, []⟩ log f) : PanelAgrees c f.state := by
  obtain ⟨⟨queue, haloft⟩, -⟩ := aloft_of_run h
  exact panelAgrees_of_shown haloft.kept.tells.shown

/-- A story of two scenes on a screen of its own, and a yard beside it. -/
def taleDocs (path : String) : Except SourceFault Json.Value :=
  if path = "sec/screen_registry.json" then
    .ok (.object [("start_screen", .string "story_a"),
      ("screens", .object [("story_a", .object []), ("yard", .object [])])])
  else if path = "a.json" then
    .ok (.object [("start", .string "S1"), ("scenes", .object [
      ("S1", .object [("text", .string "Hello"), ("options", .array [
        .object [("label", .string "On"), ("to", .string "S2")]])]),
      ("S2", .object [("text", .string "Bye")])])])
  else .error (.notFound path)

def taleCatalog : Catalog := .ofList [(⟨"a"⟩, "a.json")]

/-- The player boots, the story is mounted, and the reader goes on to its second scene. -/
def secondScene : (protocol {}).Flight :=
  Protocol.Flight.play (P := protocol {}) (sourceOf taleDocs) ⟨ofCatalog taleCatalog, []⟩
    [.begin (.boot none), .resume 0, .resume 0, .resume 0, .begin (.choose 0)]

theorem panel_agrees_in_the_second_scene :
    (∃ log, (protocol {}).Run Call.Plays (fun _ _ => True) ⟨ofCatalog taleCatalog, []⟩ log secondScene) ∧
    PanelAgrees {} secondScene.state ∧
    (secondScene.state.stage.panel? ⟨"story_a"⟩).map (fun p => (p.node, p.paragraphs)) =
      some (⟨"S2"⟩, ["Bye"]) := by
  have hrun : ∃ log, (protocol {}).Run Call.Plays (fun _ _ => True) ⟨ofCatalog taleCatalog, []⟩ log
      secondScene :=
    Protocol.exists_run_play (fun _ => trivial) (by simp [Call.Plays]) .start
  refine ⟨hrun, ?_, by decide +kernel⟩
  obtain ⟨log, h⟩ := hrun
  exact panel_agrees_of_run h

end App
end Gamebook
