import Gamebook.Proofs.App.Aside

/-! What is told of a stage without its panels. A view that does not change when a panel is shown, taken off or
scrolled, `Stage.Unseen`, is kept by all that stories do: by choices, mounts and saves, and so by the deliveries of
transitions and by a boot once its first screen is shown, `Unseen.aside`. -/
namespace Gamebook

namespace Stage

variable {γ δ : Type} {g : Stage → γ} {h : Stage → δ}

variable (g) in
/-- Neither panels are seen nor the lock. -/
structure Unseen : Prop where
  mount : ∀ s screen panel, g (s.mount screen panel) = g s
  unmount : ∀ s screen, g (s.unmount screen).1 = g s
  scroll : ∀ s screen top, g (s.scroll screen top).1 = g s
  unlocked : ∀ s, g (s.setScrollLocked false) = g s

theorem Unseen.prod (hg : Unseen g) (hh : Unseen h) : Unseen fun s => (g s, h s) where
  mount s screen panel := Prod.ext (hg.mount s screen panel) (hh.mount s screen panel)
  unmount s screen := Prod.ext (hg.unmount s screen) (hh.unmount s screen)
  scroll s screen top := Prod.ext (hg.scroll s screen top) (hh.scroll s screen top)
  unlocked s := Prod.ext (hg.unlocked s) (hh.unlocked s)

theorem Unseen.unmountAll (hg : Unseen g) (s : Stage) (fs : List Surface) :
    g (fs.foldl (fun stage f => (stage.unmount f.id).1) s) = g s := by
  induction fs generalizing s with
  | nil => rfl
  | cons f fs ih => rw [List.foldl_cons, ih, hg.unmount]

end Stage

namespace Stage.Unseen

open Act Storybook

variable {γ : Type} {g : Stage → γ} (h : Unseen g)

include h

theorem unpanelled : Unpanelled fun s => g s.stage where
  unmountIfCurrent v := by
    intro s
    simp only [unmountIfCurrent, modify_apply]
    split
    · exact (h.unlocked _).trans (h.unmount s.stage v.screen)
    · rfl
  unmountExcept keep s := h.unmountAll s.stage _
  unlocked s := h.unlocked s.stage

theorem of_chooses {c : StorySettings} {s : Staged Storybook}
    {made : Made (Staged Storybook) (Progress Saving (Option NodeId))} (hmade : Chooses c s made) :
    g made.state.stage = g s.stage := by
  cases hmade with
  | nothing => rfl
  | selects hs =>
    cases hs with
    | nothing => rfl
    | chosen => exact h.mount ..

theorem settle (c : StorySettings) (v : Visit) (graph : Option Story.Graph) (saved : Option NodeId) :
    Keeps (fun s => g s.stage) (settle c v graph saved) := by
  intro s
  have hsettles := settles_settle c v graph saved s
  generalize Storybook.settle c v graph saved s = made at hsettles ⊢
  cases hsettles with
  | stale => rfl
  | empty => exact h.unpanelled.unmountIfCurrent v s
  | rendered => exact h.mount ..

theorem mounting (c : StorySettings) (w : Mounting) (reply : w.request.Reply) :
    Keeps (fun s => g s.stage) (w.resume c reply) := by
  match w, reply with
  | .locating v w, reply => exact Keeps.bind (x := Staged.onPart _) (fun _ => rfl) fun _ => h.unpanelled.located v _
  | .opening v url, .error cause => exact fun _ => rfl
  | .opening v url, .ok doc =>
    intro s
    obtain ⟨notices, heq⟩ := Mounting.resume_opening c v url doc s
    rw [heq]
  | .recalling v graph, .error cause =>
    exact (Keeps.give _).bind fun _ => (h.settle c v graph none).bind fun _ => .pure _
  | .recalling v graph, .ok saved => exact (h.settle c v graph saved).bind fun _ => .pure _

theorem saving (w : Saving) (reply : w.request.Reply) : Keeps (fun s => g s.stage) (w.resume reply) := by
  intro s
  simp only [Saving.resume_state]
  split
  · exact h.scroll ..
  · rfl

theorem aside (c : Settings) : App.Aside c fun a => g a.stage where
  taken _ _ := rfl
  enter change a := h.unpanelled.enter c.navigation change ⟨a.stage, a.storybook⟩
  roster _ _ := rfl
  catalog _ _ := rfl
  boots _ _ _ := rfl

end Stage.Unseen
end Gamebook
