import Gamebook.Proofs.Interleaving
import Gamebook.Roster

/-! What steps leave to wait for. `Waits` is a postcondition on a step: whatever it waits for is of a kind that may
depend on the state that it leaves. There is one rule for each way in which steps are put together, and one for the
rounds of a crew. -/
namespace Gamebook

/-- Whatever a call still waits for is of a kind. -/
def Progress.Each {ω α : Type} (P : ω → Prop) (p : Progress ω α) : Prop := ∀ w ∈ p.pending, P w

namespace Progress

variable {ω ω' α β : Type} {P : ω → Prop} {Q : ω' → Prop}

theorem each_done (a : α) : (done a : Progress ω α).Each P := fun w hw => absurd hw (Multiset.notMem_zero w)

theorem each_waiting {w : ω} (h : P w) : (waiting w : Progress ω α).Each P := by
  intro w' hw'
  rw [pending_waiting, Multiset.mem_singleton] at hw'
  exact hw' ▸ h

theorem Each.of_eq {p : Progress ω α} {w : ω} (h : p.Each P) (hp : p = .waiting w) : P w :=
  h w (by rw [hp]; exact Multiset.mem_singleton_self w)

theorem Each.map {p : Progress ω α} (h : p.Each P) {f : ω → ω'} (g : α → β) (hf : ∀ w, P w → Q (f w)) :
    (p.map f g).Each Q := by
  cases p with
  | done a => exact each_done _
  | waiting w => exact each_waiting (hf w (h.of_eq rfl))

theorem each_map (p : Progress ω α) {f : ω → ω'} (g : α → β) (hf : ∀ w, Q (f w)) : (p.map f g).Each Q := by
  cases p with
  | done a => exact each_done _
  | waiting w => exact each_waiting (hf w)

end Progress

namespace Act

variable {σ ω ω' α β : Type} {P : σ → ω → Prop} {Q : σ → ω' → Prop}

/-- A step after which whatever is waited for is of a kind that the state decides. -/
def Waits (P : σ → ω → Prop) (x : Act σ (Progress ω α)) : Prop := ∀ s, (x s).value.Each (P (x s).state)

namespace Waits

theorem done (a : α) : Waits P (pure (.done a) : Act σ (Progress ω α)) := fun _ => Progress.each_done a

theorem waiting {w : ω} (h : ∀ s, P s w) : Waits P (pure (.waiting w) : Act σ (Progress ω α)) :=
  fun s => Progress.each_waiting (h s)

theorem bind {x : Act σ β} {k : β → Act σ (Progress ω α)} (hk : ∀ b, Waits P (k b)) : Waits P (x >>= k) :=
  fun s => hk (x s).value (x s).state

theorem map {x : Act σ (Progress ω α)} {f : ω → ω'} {g : α → β} (hx : Waits P x) (hf : ∀ s w, P s w → Q s (f w)) :
    Waits Q (x >>= fun p => pure (p.map f g)) :=
  fun s => (hx s).map g (hf (x s).state)

theorem of_forall {x : Act σ (Progress ω α)} {f : ω → ω'} {g : α → β} (hf : ∀ s w, Q s (f w)) :
    Waits Q (x >>= fun p => pure (p.map f g)) :=
  fun s => (x s).value.each_map g (hf (x s).state)

theorem bind_progress {x : Act σ (Progress ω α)} {k : Progress ω α → Act σ (Progress ω' β)} {f : ω → ω'}
    (hx : Waits P x) (hdone : ∀ a, Waits Q (k (.done a))) (hwaiting : ∀ w, k (.waiting w) = pure (.waiting (f w)))
    (hf : ∀ s w, P s w → Q s (f w)) : Waits Q (x >>= k) := by
  intro s
  show (k (x s).value (x s).state).value.Each (Q (k (x s).value (x s).state).state)
  cases hvalue : (x s).value with
  | done a => exact hdone a (x s).state
  | waiting w =>
    rw [hwaiting]
    exact Progress.each_waiting (hf (x s).state w ((hx s).of_eq hvalue))

/-- What the first part waits for does not matter. -/
theorem bind_any {x : Act σ (Progress ω α)} {k : Progress ω α → Act σ (Progress ω' β)} {f : ω → ω'}
    (hdone : ∀ a, Waits Q (k (.done a))) (hwaiting : ∀ w, k (.waiting w) = pure (.waiting (f w)))
    (hf : ∀ s w, Q s (f w)) : Waits Q (x >>= k) :=
  bind_progress (P := fun _ _ => True) (fun _ _ _ => trivial) hdone hwaiting fun s w _ => hf s w

end Waits
end Act

theorem Crew.waits_round {κ σ ω π : Type} (crew : Crew κ σ ω π) {P : σ → π → Prop} {change : ScreenChange}
    (htell : ∀ who, Act.Waits P (crew.tell who change)) (positions : List Nat) :
    Act.Waits (fun s (w : Roster.Round π) => P s w.inner) (crew.round change positions) := by
  induction positions with
  | nil => exact .done ()
  | cons i rest ih =>
    refine .bind fun s => ?_
    split
    · rename_i who _
      exact (htell who).bind_progress (fun _ => ih) (fun _ => rfl) fun _ _ h => h
    · exact ih

end Gamebook
