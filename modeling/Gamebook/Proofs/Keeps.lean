import Gamebook.Roster

/-! Steps that go only where a relation leads; those that leave a part of the state as it is are an instance.
Where the starts and the tells of a crew lead, its sweeps and rounds lead. -/
namespace Gamebook

namespace Act

variable {σ α β γ : Type} {R : σ → σ → Prop} {f : σ → γ}

structure Way (R : σ → σ → Prop) : Prop where
  refl : ∀ s, R s s
  trans : ∀ {s t u}, R s t → R t u → R s u

/-- A step that goes only where `R` leads. -/
def Along (R : σ → σ → Prop) (x : Act σ α) : Prop := ∀ s, R s (x s).state

namespace Along

theorem pure (hR : Way R) (a : α) : Along R (pure a : Act σ α) := fun s => hR.refl s

theorem give (hR : Way R) (n : Notice) : Along R (give n) := fun s => hR.refl s

theorem bind (hR : Way R) {x : Act σ α} {k : α → Act σ β} (hx : Along R x) (hk : ∀ a, Along R (k a)) :
    Along R (x >>= k) :=
  fun s => hR.trans (hx s) (hk (x s).value (x s).state)

theorem get_bind {k : σ → Act σ β} (hk : ∀ s, Along R (k s)) : Along R (get >>= k) := fun s => hk s s

end Along

theorem way_same (f : σ → γ) : Way fun s t => f t = f s := ⟨fun _ => rfl, fun h h' => h'.trans h⟩

/-- A step after which `f` is what it was before. -/
def Keeps (f : σ → γ) (x : Act σ α) : Prop := ∀ s, f (x s).state = f s

theorem Keeps.pure (a : α) : Keeps f (pure a : Act σ α) := fun _ => rfl

theorem Keeps.give (n : Notice) : Keeps f (give n) := fun _ => rfl

theorem Keeps.bind {x : Act σ α} {k : α → Act σ β} (hx : Keeps f x) (hk : ∀ a, Keeps f (k a)) :
    Keeps f (x >>= k) :=
  Along.bind (way_same f) hx hk

theorem Keeps.get_bind {k : σ → Act σ β} (hk : ∀ s, Keeps f (k s)) : Keeps f (get >>= k) :=
  fun s => hk s s

end Act

namespace Crew

open Roster Act

variable {κ σ ω π : Type} (crew : Crew κ σ ω π) {R : σ → σ → Prop}

theorem along_round (hR : Way R) {change : ScreenChange} (htell : ∀ who, Along R (crew.tell who change))
    (positions : List Nat) : Along R (crew.round change positions) := by
  induction positions with
  | nil => exact .pure hR _
  | cons i rest ih =>
    refine .get_bind fun s => ?_
    split
    · refine (htell _).bind hR fun p => ?_
      cases p with
      | done => exact ih
      | waiting w => exact .pure hR _
    · exact ih

theorem along_settle (hR : Way R) (hroster : ∀ r s, R s (crew.withRoster r s)) (position : Nat) (who : κ)
    (result : Except StartFault Unit) : Along R (crew.settle position who result) := by
  have hmark : ∀ status, Along R (crew.mark position status) := fun _ s => hroster _ s
  cases result with
  | ok => exact (hmark _).bind hR fun _ => .pure hR _
  | error fault => exact (Along.give hR _).bind hR fun _ => (hmark _).bind hR fun _ => .pure hR _

theorem along_sweep (hR : Way R) (hroster : ∀ r s, R s (crew.withRoster r s))
    (hstart : ∀ who, Along R (crew.start who)) (positions : List Nat) (failed : Nat) :
    Along R (crew.sweep failed positions) := by
  induction positions generalizing failed with
  | nil => exact .pure hR _
  | cons i rest ih =>
    refine .get_bind fun s => ?_
    split
    · refine (hstart _).bind hR fun p => ?_
      cases p with
      | done result => exact (crew.along_settle hR hroster _ _ _).bind hR fun n => ih _
      | waiting w => exact .pure hR _
    · exact ih _

theorem along_resumeSweep (hR : Way R) (hroster : ∀ r s, R s (crew.withRoster r s))
    (hstart : ∀ who, Along R (crew.start who)) (w : Sweep ω) (result : Except StartFault Unit) :
    Along R (crew.resumeSweep w result) := by
  refine .get_bind fun s => ?_
  dsimp only
  split
  · exact (crew.along_settle hR hroster _ _ _).bind hR fun n => crew.along_sweep hR hroster hstart _ _
  · exact .pure hR _

theorem along_retry (hR : Way R) (hroster : ∀ r s, R s (crew.withRoster r s))
    (hstart : ∀ who, Along R (crew.start who)) (name : String) : Along R (crew.retry name) := by
  refine .get_bind fun s => ?_
  split
  · exact .pure hR _
  · split
    · exact .pure hR _
    · split
      · refine (hstart _).bind hR fun p => ?_
        cases p with
        | done result =>
          exact (crew.along_settle hR hroster _ _ _).bind hR fun n => .get_bind fun s => .pure hR _
        | waiting w => exact .pure hR _
      · exact .pure hR _

theorem along_resumeRetry (hR : Way R) (hroster : ∀ r s, R s (crew.withRoster r s)) (w : Retry ω)
    (result : Except StartFault Unit) : Along R (crew.resumeRetry w result) := by
  refine .get_bind fun s => ?_
  split
  · exact (crew.along_settle hR hroster _ _ _).bind hR fun n => .get_bind fun s => .pure hR _
  · exact .pure hR _

end Crew

end Gamebook
