import Gamebook.Proofs.Storybook.Completed

/-! What a whole visit leaves: `attended_visited`. The panels of other screens are gone, and the screen shows the
scene that its reader goes on with, if it has one. A second visit finds all of this done: `Attended.visited_eq`.
And of two visits from stages that differ in their panels, the second shows what the first does, but for
scrolling: `Attended.unscrolled_eq`. -/
namespace Gamebook

open Story (Graph)

namespace Storybook

variable (c : Settings) (env : (r : Request) → r.Reply)

/-- The scene that is shown on a screen once it was visited: its story, at the node where the reader goes on. -/
def sceneOn? (b : Storybook) (screen : ScreenId) : Option (Mounted × NodeId) := do
  let story ← c.navigation.storyOf? screen
  let graph ← b.told? (docsOf env) c.story story
  let node ← resumeNode? graph (b.places.get? story) (recalled env story)
  return (⟨story, screen, graph⟩, node)

/-- What a visit to a screen leaves. -/
structure Attended (screen : ScreenId) (s t : Staged Storybook) : Prop where
  bare : t.stage.bare = s.stage.bare
  sound : t.stage.Sound
  locked : t.stage.scrollLocked = (s.part.sceneOn? c env screen).isSome
  panel : ∃ top, ∀ j, t.stage.panel? j =
    (s.part.sceneOn? c env screen).bind fun e => if screen = j then some (panel c.story e.1 e.2 top) else none
  mounted : t.part.mounted = (s.part.sceneOn? c env screen).map Prod.fst
  places : t.part.places = (s.part.sceneOn? c env screen).elim s.part.places fun e => s.part.places.put e.1.story e.2
  told : ∀ story, t.part.told? (docsOf env) c.story story = s.part.told? (docsOf env) c.story story
  learned : ∀ story, c.navigation.storyOf? screen = some story → t.part.learned (docsOf env) c.story story = t.part

variable {c env} {screen : ScreenId} {story : StoryId} {s t : Staged Storybook} {b : Storybook} {g : Graph}

theorem sceneOn?_of_no_story (h : c.navigation.storyOf? screen = none) : b.sceneOn? c env screen = none := by
  simp only [sceneOn?, h]
  rfl

theorem sceneOn?_of_no_graph (hstory : c.navigation.storyOf? screen = some story)
    (h : b.told? (docsOf env) c.story story = none) : b.sceneOn? c env screen = none := by
  simp only [sceneOn?, hstory, Option.bind_eq_bind, Option.bind_some, h]
  rfl

theorem exists_node_of_told? (h : b.told? (docsOf env) c.story story = some g) (inSession saved : Option NodeId) :
    ∃ node, resumeNode? g inSession saved = some node := by
  obtain ⟨l, -, hg⟩ := Option.bind_eq_some_iff.1 h
  have hfilled := (Option.filter_eq_some_iff.1 hg).2
  exact exists_resumeNode? (by simpa using hfilled) inSession saved

theorem sceneOn?_of_graph (hstory : c.navigation.storyOf? screen = some story)
    (h : b.told? (docsOf env) c.story story = some g) {node : NodeId}
    (hnode : resumeNode? g (b.places.get? story) (recalled env story) = some node) :
    b.sceneOn? c env screen = some (⟨story, screen, g⟩, node) := by
  simp only [sceneOn?, hstory, Option.bind_eq_bind, Option.bind_some, h, hnode]
  rfl

theorem sceneOn?_eq_some {e : Mounted × NodeId} (h : b.sceneOn? c env screen = some e) :
    e.1.screen = screen ∧ b.told? (docsOf env) c.story e.1.story = some e.1.graph ∧
      resumeNode? e.1.graph (b.places.get? e.1.story) (recalled env e.1.story) = some e.2 := by
  simp only [sceneOn?, Option.bind_eq_bind, Option.bind_eq_some_iff] at h
  obtain ⟨story, -, graph, hgraph, node, hnode, he⟩ := h
  obtain rfl := Option.some.inj he
  exact ⟨rfl, hgraph, hnode⟩

theorem bare_unmountExcept (keep : Option ScreenId) : (unmountExcept keep s).state.stage.bare = s.stage.bare :=
  Stage.bare_unmountAll _ _

theorem attended_bare (hscene : s.part.sceneOn? c env screen = none) (hbare : t.stage.bare = s.stage.bare)
    (hsound : t.stage.Sound) (hlocked : t.stage.scrollLocked = false) (hpanel : ∀ j, t.stage.panel? j = none)
    (hmounted : t.part.mounted = none) (hplaces : t.part.places = s.part.places)
    (htold : ∀ story, t.part.told? (docsOf env) c.story story = s.part.told? (docsOf env) c.story story)
    (hlearned : ∀ story, c.navigation.storyOf? screen = some story →
      t.part.learned (docsOf env) c.story story = t.part) : Attended c env screen s t where
  bare := hbare
  sound := hsound
  locked := by rw [hscene, hlocked]; rfl
  panel := ⟨0, fun j => by rw [hscene, hpanel j]; rfl⟩
  mounted := by rw [hscene, hmounted]; rfl
  places := by rw [hscene, hplaces]; rfl
  told := htold
  learned := hlearned

theorem attended_plain (hs : s.stage.Sound) (hstory : c.navigation.storyOf? screen = none) :
    Attended c env screen s
      { (unmountExcept none s).state with stage := (unmountExcept none s).state.stage.setScrollLocked false } := by
  refine attended_bare (sceneOn?_of_no_story hstory) (bare_unmountExcept none)
    ((hs.unmountAll _).setScrollLocked false) rfl (fun j => ?_) ?_ rfl (fun _ => rfl) fun story h => ?_
  · rw [Stage.panel?_setScrollLocked, panel?_unmountExcept hs, if_neg (by simp)]
  · refine Option.eq_none_iff_forall_ne_some.2 fun m hm => ?_
    cases ((unmountExcept_mounted_eq_some_iff ..).1 hm).2
  · rw [hstory] at h
    cases h

section Stories

variable {generation : Nat} (hs : s.stage.Sound) (hpanel : ∀ j, screen ≠ j → s.stage.panel? j = none)
variable (hstory : c.navigation.storyOf? screen = some story)

include hs hpanel hstory

theorem attended_untold (hcur : s.stage.isCurrent generation screen = true)
    (hgraph : s.part.told? (docsOf env) c.story story = none) :
    Attended c env screen s (completed env c.story ⟨story, screen, generation⟩ s) := by
  have hcompleted := completed_of_no_graph (v := ⟨story, screen, generation⟩) hcur hgraph
  rw [hcompleted]
  refine attended_bare (sceneOn?_of_no_graph hstory hgraph) (Stage.bare_unmount ..)
    (hs.unmount.setScrollLocked false) rfl (fun j => ?_) rfl places_learned
    (fun other => told?_learned (b := s.part) other) fun other h => ?_
  · rw [Stage.panel?_setScrollLocked, Stage.panel?_unmount]
    split
    · rfl
    · rename_i hj
      exact hpanel j hj
  · obtain rfl := Option.some.inj (hstory.symm.trans h)
    exact learned_again _ none

theorem attended_told (hsurface : (s.stage.surface? screen).isSome = true)
    (hgraph : s.part.told? (docsOf env) c.story story = some g) :
    Attended c env screen s (completed env c.story ⟨story, screen, generation⟩ s) := by
  obtain ⟨node, hnode⟩ := exists_node_of_told? hgraph (s.part.places.get? story) (recalled env story)
  have hscene := sceneOn?_of_graph hstory hgraph hnode
  have hcompleted := completed_of_graph (v := ⟨story, screen, generation⟩) hgraph hnode
  rw [hcompleted]
  refine ⟨Stage.bare_mount hsurface _, hs.mount _, ?_, ⟨scrollTop s.stage ⟨story, screen, g⟩, fun j => ?_⟩, ?_, ?_,
    fun other => told?_learned (b := s.part) other, fun other h => ?_⟩
  · rw [hscene]
    rfl
  · rw [hscene, Option.bind_some]
    refine (Stage.panel?_mount ..).trans ?_
    split
    · rfl
    · rename_i hj
      exact hpanel j hj
  · rw [hscene]
    rfl
  · rw [hscene]
    exact congrArg (fun places : Table StoryId NodeId => places.put story node) (places_learned (b := s.part))
  · obtain rfl := Option.some.inj (hstory.symm.trans h)
    exact learned_again ..

end Stories

/-- The panels that are taken off first do not matter for what a visit shows. -/
theorem Attended.of_kept (keep : Option ScreenId) (h : Attended c env screen (unmountExcept keep s).state t) :
    Attended c env screen s t where
  bare := h.bare.trans (bare_unmountExcept keep)
  sound := h.sound
  locked := h.locked
  panel := h.panel
  mounted := h.mounted
  places := h.places
  told := h.told
  learned := h.learned

theorem attended_visited {generation : Nat} (hs : s.stage.Sound)
    (hcur : s.stage.isCurrent generation screen = true) (hsurface : (s.stage.surface? screen).isSome = true) :
    Attended c env screen s (visited c env ⟨screen, generation⟩ s) := by
  cases hstory : c.navigation.storyOf? screen with
  | none =>
    rw [visited_of_no_story hstory]
    exact attended_plain hs hstory
  | some story =>
    rw [visited_of_story hstory]
    let kept := (unmountExcept (some screen) s).state
    have hkept : kept.stage.Sound := hs.unmountAll _
    have hpanel : ∀ j, screen ≠ j → kept.stage.panel? j = none := by
      intro j hj
      rw [panel?_unmountExcept hs, if_neg fun h => hj (Option.some.inj h).symm]
    refine Attended.of_kept (some screen) ?_
    cases hgraph : kept.part.told? (docsOf env) c.story story with
    | none =>
      refine attended_untold hkept hpanel hstory ?_ hgraph
      rw [Stage.isCurrent_iff, unmountExcept_generation, unmountExcept_active, ← Stage.isCurrent_iff]
      exact hcur
    | some g =>
      refine attended_told hkept hpanel hstory ?_ hgraph
      rw [← Stage.isSome_surface?_bare, bare_unmountExcept, Stage.isSome_surface?_bare]
      exact hsurface

theorem resumeNode?_of_resumeNode? {inSession saved : Option NodeId} {node : NodeId}
    (h : resumeNode? g inSession saved = some node) : resumeNode? g (some node) saved = some node := by
  simp only [resumeNode?, Option.filter_some, contains_of_resumeNode? h, if_true]
  rfl

namespace Attended

variable (h : Attended c env screen s t)

include h

theorem resumeNode?_eq (hgraph : s.part.told? (docsOf env) c.story story = some g) :
    resumeNode? g (t.part.places.get? story) (recalled env story) =
      resumeNode? g (s.part.places.get? story) (recalled env story) := by
  rw [h.places]
  cases hscene : s.part.sceneOn? c env screen with
  | none => rfl
  | some e =>
    rw [Option.elim_some, Table.get?_put]
    split
    · rename_i he
      obtain ⟨-, htold, hnode⟩ := sceneOn?_eq_some hscene
      rw [he] at htold hnode
      obtain rfl := Option.some.inj (hgraph.symm.trans htold)
      rw [hnode]
      exact resumeNode?_of_resumeNode? hnode
    · rfl

/-- What any screen is going to show does not depend on a visit. -/
theorem sceneOn?_eq (j : ScreenId) : t.part.sceneOn? c env j = s.part.sceneOn? c env j := by
  unfold sceneOn?
  refine congrArg _ (funext fun story => ?_)
  rw [h.told]
  cases hgraph : s.part.told? (docsOf env) c.story story with
  | none => rfl
  | some g =>
    simp only [Option.bind_eq_bind, Option.bind_some]
    rw [h.resumeNode?_eq hgraph]

theorem again {u : Staged Storybook} (hpart : u.part = t.part) {generation : Nat}
    (hstage : u.stage = { t.stage with generation }) : Attended c env screen u u := by
  obtain ⟨stage, part⟩ := u
  obtain rfl : part = t.part := hpart
  obtain rfl : stage = { t.stage with generation } := hstage
  have hscene := h.sceneOn?_eq screen
  refine ⟨rfl, ⟨h.sound.keys, h.sound.ids⟩, ?_, ?_, ?_, ?_, fun _ => rfl, h.learned⟩
  · rw [hscene]
    exact h.locked
  · rw [hscene]
    exact h.panel
  · rw [hscene]
    exact h.mounted
  · rw [hscene, h.places]
    cases s.part.sceneOn? c env screen with
    | none => rfl
    | some e => exact (Table.put_of_get?_eq (Table.get?_put_self ..)).symm

end Attended

theorem unmountExcept_eq_self {keep : Option ScreenId} (hs : s.stage.Sound)
    (hpanel : ∀ j, some j ≠ keep → s.stage.panel? j = none)
    (hmounted : ∀ m, s.part.mounted = some m → some m.screen = keep) : (unmountExcept keep s).state = s := by
  have hnone : (s.stage.surfaces.values.filter fun f => f.panel.isSome && some f.id ≠ keep) = [] := by
    refine List.filter_eq_nil_iff.2 fun f hf => ?_
    have hsurface := (Stage.mem_surfaces_iff hs f).1 hf
    intro hp
    simp only [Bool.and_eq_true, decide_eq_true_eq] at hp
    have hnot := hpanel f.id hp.2
    rw [Stage.panel?, hsurface, Option.bind_some] at hnot
    rw [hnot] at hp
    cases hp.1
  have hkeep : s.part.mounted.filter (fun m => some m.screen = keep) = s.part.mounted := by
    cases hm : s.part.mounted with
    | none => rfl
    | some m => simp [hmounted m hm]
  simp only [unmountExcept, Act.modify_apply, hnone, hkeep, List.foldl_nil]

namespace Attended

variable {generation : Nat} (h : Attended c env screen s s)

include h

theorem unmountExcept_eq {keep : Option ScreenId}
    (hkeep : ∀ e, s.part.sceneOn? c env screen = some e → some screen = keep) : (unmountExcept keep s).state = s := by
  obtain ⟨top, hpanel⟩ := h.panel
  refine unmountExcept_eq_self h.sound (fun j hj => ?_) fun m hm => ?_
  · rw [hpanel j]
    cases hscene : s.part.sceneOn? c env screen with
    | none => rfl
    | some e => rw [Option.bind_some, if_neg fun (he : screen = j) => hj (he ▸ hkeep e hscene)]
  · rw [h.mounted] at hm
    obtain ⟨e, he, rfl⟩ := Option.map_eq_some_iff.1 hm
    rw [(sceneOn?_eq_some he).1]
    exact hkeep e he

theorem eq_of_no_scene (hscene : s.part.sceneOn? c env screen = none) :
    s.stage.scrollLocked = false ∧ s.stage.panel? screen = none ∧ s.part.mounted = none := by
  obtain ⟨top, hpanel⟩ := h.panel
  rw [h.locked, hpanel, h.mounted, hscene]
  exact ⟨rfl, rfl, rfl⟩

theorem completed_eq_of_no_graph (hcur : s.stage.isCurrent generation screen = true)
    (hstory : c.navigation.storyOf? screen = some story) (hgraph : s.part.told? (docsOf env) c.story story = none) :
    completed env c.story ⟨story, screen, generation⟩ s = s := by
  obtain ⟨hlocked, hpanel, hmounted⟩ := h.eq_of_no_scene (sceneOn?_of_no_graph hstory hgraph)
  have hcompleted := completed_of_no_graph (v := ⟨story, screen, generation⟩) hcur hgraph
  rw [hcompleted, Stage.unmount_eq_self hpanel hlocked, h.learned story hstory, ← hmounted, Stage.setScrollLocked,
    ← hlocked]

/-- A story that is shown is shown again as it is, at the node where its reader is and as far down. -/
theorem completed_eq_of_graph (hstory : c.navigation.storyOf? screen = some story)
    (hgraph : s.part.told? (docsOf env) c.story story = some g) :
    completed env c.story ⟨story, screen, generation⟩ s = s := by
  obtain ⟨top, hpanel⟩ := h.panel
  obtain ⟨node, hnode⟩ := exists_node_of_told? hgraph (s.part.places.get? story) (recalled env story)
  have hscene := sceneOn?_of_graph hstory hgraph hnode
  have hlocked : s.stage.scrollLocked = true := by rw [h.locked, hscene]; rfl
  have hmounted : s.part.mounted = some ⟨story, screen, g⟩ := by rw [h.mounted, hscene]; rfl
  have hplaces : s.part.places = s.part.places.put story node := by
    have hplaces := h.places
    rwa [hscene] at hplaces
  have hp : s.stage.panel? screen = some (Storybook.panel c.story ⟨story, screen, g⟩ node top) := by
    rw [hpanel, hscene, Option.bind_some, if_pos rfl]
  have hdisplay : display c.story ⟨story, screen, g⟩ node s.stage = s.stage := by
    have htop : scrollTop s.stage ⟨story, screen, g⟩ = top := by
      rw [scrollTop, hp]
      exact if_pos rfl
    rw [display, htop]
    exact Stage.mount_eq_self hp hlocked
  have hcompleted := completed_of_graph (v := ⟨story, screen, generation⟩) hgraph hnode
  rw [hcompleted, h.learned story hstory, shown, hdisplay, ← hplaces, ← hmounted]

theorem visited_eq (hcur : s.stage.isCurrent generation screen = true) : visited c env ⟨screen, generation⟩ s = s := by
  cases hstory : c.navigation.storyOf? screen with
  | none =>
    have hscene : s.part.sceneOn? c env screen = none := sceneOn?_of_no_story hstory
    have hkept : (unmountExcept none s).state = s := by
      refine h.unmountExcept_eq fun e he => ?_
      rw [hscene] at he
      cases he
    rw [visited_of_no_story hstory, hkept, Stage.setScrollLocked, ← (h.eq_of_no_scene hscene).1]
  | some story =>
    have hkept : (unmountExcept (some screen) s).state = s := h.unmountExcept_eq fun _ _ => rfl
    rw [visited_of_story hstory, hkept]
    cases hgraph : s.part.told? (docsOf env) c.story story with
    | none => exact h.completed_eq_of_no_graph hcur hstory hgraph
    | some g => exact h.completed_eq_of_graph hstory hgraph

end Attended

/-- Visits that begin alike show the same, but for scrolling. -/
theorem Attended.unscrolled_eq {s' t' : Staged Storybook} (h : Attended c env screen s t)
    (h' : Attended c env screen s' t') (hbare : s.stage.bare = s'.stage.bare)
    (hscene : s.part.sceneOn? c env screen = s'.part.sceneOn? c env screen) :
    t.stage.unscrolled = t'.stage.unscrolled ∧ t.part.mounted = t'.part.mounted := by
  refine ⟨Stage.unscrolled_ext h.sound (h.bare.trans (hbare.trans h'.bare.symm)) ?_ fun j => ?_, ?_⟩
  · rw [h.locked, h'.locked, hscene]
  · obtain ⟨top, hpanel⟩ := h.panel
    obtain ⟨top', hpanel'⟩ := h'.panel
    rw [hpanel, hpanel', hscene]
    cases s'.part.sceneOn? c env screen with
    | none => rfl
    | some e =>
      rw [Option.bind_some, Option.bind_some]
      split <;> rfl
  · rw [h.mounted, h'.mounted, hscene]

end Storybook
end Gamebook
