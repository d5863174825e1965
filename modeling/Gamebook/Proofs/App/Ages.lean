import Gamebook.Proofs.App.Spot
import Gamebook.Proofs.App.Unseen
import Gamebook.Proofs.App.Ways
import Gamebook.Proofs.Trace

/-! The age of a stage. A navigation that is accepted opens the next generation, and no step of any call goes
back behind one: `ages_begin` and `ages_resume`, and for whole traces `later_of_trace`. A screen that was left
in its generation is therefore never current in it again. -/
namespace Gamebook

namespace Stage

/-- A later generation, or the same one with the same screen. -/
def Later (s t : Stage) : Prop :=
  s.generation < t.generation ∨ t.generation = s.generation ∧ t.active = s.active

namespace Later

variable {s t u : Stage} {generation : Nat} {screen : ScreenId}

theorem refl (s : Stage) : s.Later s := .inr ⟨rfl, rfl⟩

theorem trans (h : s.Later t) (h' : t.Later u) : s.Later u := by
  rcases h with h | ⟨hg, ha⟩ <;> rcases h' with h' | ⟨hg', ha'⟩
  · exact .inl (h.trans h')
  · exact .inl (hg' ▸ h)
  · exact .inl (hg ▸ h')
  · exact .inr ⟨hg'.trans hg, ha'.trans ha⟩

theorem generation_le (h : s.Later t) : s.generation ≤ t.generation := by
  rcases h with h | ⟨h, -⟩
  · exact h.le
  · exact h.ge

/-- A generation that was opened and left is not current again. -/
theorem not_current (h : s.Later t) (hopened : generation ≤ s.generation)
    (hleft : s.isCurrent generation screen = false) : t.isCurrent generation screen = false := by
  rw [Bool.eq_false_iff, Ne, isCurrent_iff] at hleft ⊢
  rintro ⟨hg, ha⟩
  rcases h with h | ⟨hsame, hactive⟩
  · omega
  · exact hleft ⟨hsame ▸ hg, hactive ▸ ha⟩

end Later

def now (s : Stage) : Nat × Option ScreenId := (s.generation, s.active)

theorem unseen_now : Unseen now where
  mount _ _ _ := rfl
  unmount s screen := by rw [now, now, unmount_generation, unmount_active]
  scroll _ _ _ := rfl
  unlocked _ := rfl

theorem later_of_now {s t : Stage} (h : t.now = s.now) : s.Later t := .inr (Prod.mk.inj h)

end Stage

namespace App

open Act

variable {c : Settings} {α : Type}

/-- A step that does not take the stage back. -/
def Ages (x : Act App α) : Prop := ∀ a : App, a.stage.Later (x a).state.stage

theorem later_of_went {s : Staged Navigation}
    {made : Made (Staged Navigation) (Progress Fitting (Option ScreenId))}
    (h : Navigation.Went c.navigation s made) : s.stage.Later made.state.stage := by
  cases h with
  | refused => exact .refl _
  | departed _ _ _ _ hd => exact .inl (hd.generation ▸ Nat.lt_succ_self _)
  | arrived _ _ _ _ hd =>
    refine .inl (Nat.lt_of_lt_of_eq ?_ hd.generation.symm)
    exact Nat.lt_succ_self _

theorem keeps_now_settle (w : Fitting) (reply : w.request.Reply) :
    Keeps (fun a : App => a.stage.now) (navigating (Navigation.settle w reply)) := by
  intro a
  obtain ⟨hactive, hgeneration, -⟩ := Navigation.settle_same w reply ⟨a.stage, a.navigation⟩
  exact Prod.ext hgeneration hactive

theorem keeps_now_fit (w : Fitting) (reply : w.request.Reply) :
    Keeps (fun a : App => a.stage.now) (navigating (Staged.onStage (w.resume reply))) := by
  intro a
  show (w.resume reply a.stage).state.now = _
  rw [Fitting.resume_state]
  split <;> rfl

theorem travels_later : Travels c fun a b => a.stage.Later b.stage where
  refl a := .refl a.stage
  trans h h' := h.trans h'
  taken _ _ := .refl _
  enter change a := Stage.later_of_now ((Stage.unseen_now.aside c).enter change a)
  roster _ _ := .refl _
  catalog _ _ := .refl _
  boots _ _ _ := .refl _
  went h := later_of_went h
  settle w reply a := Stage.later_of_now (keeps_now_settle w reply a)
  mount v a := Stage.later_of_now (Stage.unseen_now.unpanelled.mount v a.stories)
  fit w reply a := Stage.later_of_now (keeps_now_fit w reply a)
  loaded a registry := by
    obtain ⟨hgeneration, hactive, -⟩ := Stage.ensureAll_same a.stage registry.ids
    exact .inr ⟨hgeneration, hactive⟩

theorem ages_begin (call : Call) : Ages (begin c call) := by
  intro a
  rcases travels_later.begin (c := c) call a with h | ⟨made, hchooses, hb⟩
  · exact h
  · rw [hb]
    exact Stage.later_of_now (Stage.unseen_now.of_chooses hchooses)

theorem ages_resume (w : Waiting) (reply : w.request.Reply) : Ages (resume c w reply) := by
  intro a
  cases travels_later.resume (c := c) w reply a with
  | along _ h => exact h
  | mounted x _ h =>
    exact (Stage.later_of_now (Stage.unseen_now.mounting c.story x.asked x.reply a.stories)).trans h
  | saved s r _ _ hb =>
    rw [hb]
    exact Stage.later_of_now (Stage.unseen_now.saving s r a.stories)

variable {allowed : Call → Prop} {answers : (r : Request) → r.Reply → Prop}

theorem later_of_happens {e : (protocol c).Event} (h : e.Happens allowed answers) :
    e.before.state.stage.Later e.after.state.stage := by
  cases h with
  | begin f ha => exact ages_begin _ _
  | resume reply hw hready hreply => exact ages_resume _ reply _

theorem later_of_trace {start f : (protocol c).Flight} {es : List (protocol c).Event}
    (h : (protocol c).Trace allowed answers start es f) : start.state.stage.Later f.state.stage := by
  induction h with
  | start => exact .refl _
  | step _ he ih => exact ih.trans (later_of_happens he)

end App
end Gamebook
