import Gamebook.Proofs.Storybook.Visits

/-! Where readers are. Most steps leave every reader where he is, though they may take a story off: they rest.
Only a choice and the last step of a mount tell a scene, `Moved`. A reader is always somewhere in a graph of
his story, `Rooted`, and so, while documents do not change, no mount takes him anywhere else. -/
namespace Gamebook

open Story (Graph)

def Saving.choice (w : Saving) : StoryId × NodeId := (w.visit.story, w.target)

def Progress.choice? {α : Type} : Progress Saving α → Option (StoryId × NodeId)
  | .waiting w => some w.choice
  | .done _ => none

namespace Storybook

/-- No reader is moved and no story is shown; the one that was shown may be taken off. -/
structure Rests (b b' : Storybook) : Prop where
  places : b'.places = b.places
  mounted : ∀ {m : Mounted}, b'.mounted = some m → b.mounted = some m

namespace Rests

variable {b b' b'' : Storybook}

theorem refl (b : Storybook) : b.Rests b := ⟨rfl, id⟩

theorem trans (h : b.Rests b') (h' : b'.Rests b'') : b.Rests b'' :=
  ⟨h'.places.trans h.places, fun hm => h.mounted (h'.mounted hm)⟩

end Rests

def told (b : Storybook) (m : Mounted) (node : NodeId) : Storybook :=
  { b with places := b.places.put m.story node, mounted := some m }

theorem rests_unmountIfCurrent (v : Visit) (s : Staged Storybook) :
    s.part.Rests (unmountIfCurrent v s).state.part := by
  rw [unmountIfCurrent_state]
  split
  · exact ⟨rfl, fun hm => by cases hm⟩
  · exact .refl _

theorem rests_unmountExcept (keep : Option ScreenId) (s : Staged Storybook) :
    s.part.Rests (unmountExcept keep s).state.part :=
  ⟨rfl, fun hm => ((unmountExcept_mounted_eq_some_iff keep _).1 hm).1⟩

theorem rests_located (v : Visit) (locator : Option Locator) (s : Staged Storybook) :
    s.part.Rests (located v locator s).state.part := by
  have h := located_located v locator s
  generalize located v locator s = made at h ⊢
  cases h with
  | missing => exact rests_unmountIfCurrent v s
  | known => exact .refl _
  | opening => exact .refl _

theorem rests_mount (v : Visit) (s : Staged Storybook) : s.part.Rests (mount v s).state.part := by
  rw [mount_eq]
  cases s.part.catalog.found v.story with
  | done locator => exact rests_located v locator s
  | waiting w => exact .refl _

theorem rests_enter (c : NavigationSettings) (ch : ScreenChange) (s : Staged Storybook) :
    s.part.Rests (enter c ch s).state.part := by
  have h := enters_enter c ch s
  generalize enter c ch s = made at h ⊢
  cases h with
  | stale => exact .refl _
  | plain => exact rests_unmountExcept none s
  | story => exact (rests_unmountExcept _ s).trans (rests_mount _ _)

section Moved

variable (answers : (r : Request) → r.Reply → Prop) (c : StorySettings) (first : Catalog)

/-- What may become of a storybook, with the choice that is made and the scene that a mount shows: nothing but
that a story is taken off, or a scene is told, either of the mounted story or of one that was fetched. -/
inductive Moved (b b' : Storybook) : Option (StoryId × NodeId) → Option (StoryId × NodeId) → Prop
  | rests : b.Rests b' → Moved b b' none none
  | chosen {m : Mounted} {target : NodeId} : b.mounted = some m → m.graph.contains target = true →
      (b.told m target).Rests b' → Moved b b' (some (m.story, target)) none
  | shown {m : Mounted} {node : NodeId} (saved : Option NodeId) : Ends answers c first m.story (some m.graph) →
      resumeNode? m.graph (b.places.get? m.story) saved = some node → (b.told m node).Rests b' →
      Moved b b' none (some (m.story, node))

/-- Every reader is in a graph of his story, and one is shown. -/
structure Rooted (b : Storybook) : Prop where
  places : ∀ {story : StoryId} {node : NodeId}, b.places.get? story = some node →
    ∃ graph, Ends answers c first story (some graph) ∧ graph.contains node = true
  mounted : ∀ {m : Mounted}, b.mounted = some m → Ends answers c first m.story (some m.graph)

variable {answers c first} {b b' : Storybook}

theorem rooted_first : Rooted answers c first { catalog := first } where
  places hnode := by cases hnode
  mounted hm := by cases hm

namespace Rooted

theorem rests (h : Rooted answers c first b) (hrests : b.Rests b') : Rooted answers c first b' :=
  ⟨fun hnode => h.places (hrests.places ▸ hnode), fun hm => h.mounted (hrests.mounted hm)⟩

theorem told (h : Rooted answers c first b) {m : Mounted} {node : NodeId}
    (hends : Ends answers c first m.story (some m.graph)) (hin : m.graph.contains node = true) :
    Rooted answers c first (b.told m node) where
  places := by
    intro story node' hnode
    rw [Storybook.told, Table.get?_put] at hnode
    by_cases hstory : m.story = story
    · rw [if_pos hstory] at hnode
      obtain rfl := Option.some.inj hnode
      exact hstory ▸ ⟨m.graph, hends, hin⟩
    · rw [if_neg hstory] at hnode
      exact h.places hnode
  mounted hm := by
    obtain rfl := Option.some.inj hm
    exact hends

theorem moved (h : Rooted answers c first b) {choice? shown? : Option (StoryId × NodeId)}
    (hmoved : Moved answers c first b b' choice? shown?) : Rooted answers c first b' := by
  cases hmoved with
  | rests hrests => exact h.rests hrests
  | chosen hm hin hrests => exact (h.told (h.mounted hm) hin).rests hrests
  | shown saved hends hnode hrests => exact (h.told hends (contains_of_resumeNode? hnode)).rests hrests

end Rooted

namespace Moved

variable {choice? shown? : Option (StoryId × NodeId)} (h : Moved answers c first b b' choice? shown?)

include h

theorem trans_rests {b'' : Storybook} (hrests : b'.Rests b'') : Moved answers c first b b'' choice? shown? := by
  cases h with
  | rests h => exact .rests (h.trans hrests)
  | chosen hm hin h => exact .chosen hm hin (h.trans hrests)
  | shown saved hends hnode h => exact .shown saved hends hnode (h.trans hrests)

/-- A reader is where he chose to go, or where a mount found him, or else where he was. -/
theorem place (story : StoryId) : b'.places.get? story =
    (Table.get? choice?.toList story).or ((Table.get? shown?.toList story).or (b.places.get? story)) := by
  have htold : ∀ {m : Mounted} {node : NodeId}, (b.told m node).Rests b' →
      b'.places.get? story = (Table.get? [(m.story, node)] story).or (b.places.get? story) := by
    intro m node hrests
    rw [hrests.places, told, Table.get?_put, Table.get?_cons, Table.get?_nil]
    split <;> rfl
  cases h with
  | rests hrests =>
    rw [hrests.places]
    rfl
  | chosen _ _ hrests => exact htold hrests
  | shown _ _ _ hrests => exact htold hrests

/-- While documents do not change, a mount finds a reader where he was. -/
theorem shown?_eq {docs : String → Except SourceFault Json.Value} (hanswers : answers = Fixed docs)
    (hrooted : Rooted answers c first b) {story : StoryId} {node : NodeId}
    (hplace : b.places.get? story = some node) :
    Table.get? shown?.toList story = none ∨ Table.get? shown?.toList story = some node := by
  subst hanswers
  cases h with
  | rests => exact .inl rfl
  | chosen => exact .inl rfl
  | @shown m shown saved hends hnode =>
    by_cases hstory : m.story = story
    · subst hstory
      obtain ⟨graph, hgraph, hin⟩ := hrooted.places hplace
      have hsame : graph = m.graph :=
        Option.some.inj (hgraph.eq_storyGraph?.trans hends.eq_storyGraph?.symm)
      have hresume : resumeNode? m.graph (some node) saved = some node := by
        simp [resumeNode?, Option.filter, hsame ▸ hin]
      rw [hplace, hresume] at hnode
      obtain rfl := Option.some.inj hnode
      exact .inr (by simp [Table.get?_cons])
    · exact .inl (by simp [Table.get?_cons, hstory])

end Moved
end Moved

theorem moved_of_chooses {answers : (r : Request) → r.Reply → Prop} {c : StorySettings} {first : Catalog}
    {s : Staged Storybook} {made : Made (Staged Storybook) (Progress Saving (Option NodeId))}
    (h : Chooses c s made) :
    Moved answers c first s.part made.state.part made.value.choice? none := by
  cases h with
  | nothing => exact .rests (.refl _)
  | selects hselects =>
    cases hselects with
    | nothing => exact .rests (.refl _)
    | @chosen m target notices hm hstory htarget =>
      subst hstory
      refine .chosen hm (target?_eq_some htarget).2.1 ⟨rfl, fun {m'} hm' => ?_⟩
      exact hm.symm.trans hm'

end Storybook

def MountOutcome.shows? (story : StoryId) : MountOutcome → Option (StoryId × NodeId)
  | rendered node => some (story, node)
  | _ => none

namespace Mounting

def shows? (c : StorySettings) (w : Mounting) (reply : w.request.Reply) (s : Staged Storybook) :
    Option (StoryId × NodeId) :=
  match (w.resume c reply s).value with
  | .done outcome => outcome.shows? w.visit.story
  | .waiting _ => none

variable {answers : (r : Request) → r.Reply → Prop} {c : Settings} {first : Catalog}

theorem moved_settle {v : Visit} {graph : Option Graph} (hyields : Yields answers c.story first v.story graph)
    (saved : Option NodeId) (s : Staged Storybook) :
    Storybook.Moved answers c.story first s.part (Storybook.settle c.story v graph saved s).state.part none
      ((Storybook.settle c.story v graph saved s).value.shows? v.story) := by
  have h := Storybook.settles_settle c.story v graph saved s
  generalize Storybook.settle c.story v graph saved s = made at h ⊢
  cases h with
  | stale => exact .rests (.refl _)
  | empty => exact .rests (Storybook.rests_unmountIfCurrent v s)
  | @rendered g node notices hcur hfilled hnode =>
    have hends : Ends answers c.story first v.story (some g) := hfilled ▸ .read hyields
    exact .shown (m := ⟨v.story, v.screen, g⟩) saved hends hnode (.refl _)

theorem moved_locating (v : Visit) (w : Catalog.Locating) (reply : w.request.Reply) (s : Staged Storybook) :
    Storybook.Moved answers c.story first s.part ((locating v w).resume c.story reply s).state.part none
      ((locating v w).shows? c.story reply s) := by
  -- the catalog is kept before the story is looked for
  let kept : Staged Storybook := { s with part := { s.part with catalog := (w.resume reply s.part.catalog).state } }
  have hkept : s.part.Rests kept.part := ⟨rfl, id⟩
  have hrests : s.part.Rests (Storybook.located v (w.resume reply s.part.catalog).value kept).state.part :=
    hkept.trans (Storybook.rests_located v _ kept)
  have hnone : (locating v w).shows? c.story reply s = none := by
    have h := Storybook.located_located v (w.resume reply s.part.catalog).value kept
    have hvalue : ((locating v w).resume c.story reply s).value =
        (Storybook.located v (w.resume reply s.part.catalog).value kept).value := rfl
    rw [shows?, hvalue]
    generalize Storybook.located v _ kept = made at h ⊢
    cases h <;> rfl
  rw [hnone]
  exact .rests hrests

theorem moved_resume {w : Mounting} (hfetched : w.Fetched answers c first) (reply : w.request.Reply)
    (s : Staged Storybook) :
    Storybook.Moved answers c.story first s.part (w.resume c.story reply s).state.part none
      (w.shows? c.story reply s) := by
  match w, reply, hfetched with
  | .locating v w, reply, _ => exact moved_locating v w reply s
  | .opening v url, .error cause, _ => exact .rests (.refl _)
  | .opening v url, .ok doc, _ =>
    obtain ⟨notices, h⟩ := Mounting.resume_opening c.story v url doc s
    rw [shows?, h]
    exact .rests ⟨rfl, id⟩
  | .recalling v graph, .error cause, hyields => exact moved_settle hyields none s
  | .recalling v graph, .ok saved, hyields => exact moved_settle hyields saved s

end Mounting
end Gamebook
