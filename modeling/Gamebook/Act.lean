import Gamebook.Json.Value
import Gamebook.Notice

/-! Steps of a player. A step changes a state, gives notices and a value. A call takes as many steps as
it has requests to the outside: between them it waits, and what it waits for is data, so that other
calls can take steps meanwhile. -/
namespace Gamebook

structure Made (σ α : Type) where
  state : σ
  notices : List Notice
  value : α

def Act (σ α : Type) : Type := σ → Made σ α

namespace Act

variable {σ τ α β : Type}

protected def pure (a : α) : Act σ α := fun s => ⟨s, [], a⟩

protected def bind (x : Act σ α) (f : α → Act σ β) : Act σ β := fun s =>
  let made := x s
  let next := f made.value made.state
  ⟨next.state, made.notices ++ next.notices, next.value⟩

instance : Monad (Act σ) where
  pure := Act.pure
  bind := Act.bind

instance : LawfulMonad (Act σ) := LawfulMonad.mk' _
  (by intros; funext s; simp [Functor.map, Act.bind, Act.pure])
  (by intros; funext s; simp [bind, pure, Act.bind, Act.pure])
  (by intros; funext s; simp [bind, Act.bind, List.append_assoc])

def get : Act σ σ := fun s => ⟨s, [], s⟩
def set (s : σ) : Act σ Unit := fun _ => ⟨s, [], ()⟩
def modify (f : σ → σ) : Act σ Unit := fun s => ⟨f s, [], ()⟩
def give (n : Notice) : Act σ Unit := fun s => ⟨s, [n], ()⟩

def within (part : τ → σ) (replace : τ → σ → τ) (x : Act σ α) : Act τ α := fun t =>
  let made := x (part t)
  ⟨replace t made.state, made.notices, made.value⟩

@[simp] theorem pure_apply (a : α) (s : σ) : (pure a : Act σ α) s = ⟨s, [], a⟩ := rfl

theorem bind_apply (x : Act σ α) (f : α → Act σ β) (s : σ) :
    (x >>= f) s = ⟨(f (x s).value (x s).state).state,
      (x s).notices ++ (f (x s).value (x s).state).notices, (f (x s).value (x s).state).value⟩ := rfl

theorem bind_get (f : σ → Act σ α) (s : σ) : ((get : Act σ σ) >>= f) s = f s s := rfl

@[simp] theorem get_apply (s : σ) : (get : Act σ σ) s = ⟨s, [], s⟩ := rfl
@[simp] theorem set_apply (s t : σ) : set s t = ⟨s, [], ()⟩ := rfl
@[simp] theorem modify_apply (f : σ → σ) (s : σ) : modify f s = ⟨f s, [], ()⟩ := rfl
@[simp] theorem give_apply (n : Notice) (s : σ) : give n s = ⟨s, [n], ()⟩ := rfl

@[simp] theorem within_apply (part : τ → σ) (replace : τ → σ → τ) (x : Act σ α) (t : τ) :
    within part replace x t = ⟨replace t (x (part t)).state, (x (part t)).notices, (x (part t)).value⟩ :=
  rfl

@[simp] theorem ite_apply (p : Prop) [Decidable p] (x y : Act σ α) (s : σ) :
    (if p then x else y) s = if p then x s else y s := by
  split <;> rfl

end Act

/-- Where a call stands: it has its value, or waits. -/
inductive Progress (ω α : Type)
  | done (value : α)
  | waiting (call : ω)
  deriving DecidableEq

namespace Progress

variable {ω ω' α β : Type}

def map (f : ω → ω') (g : α → β) : Progress ω α → Progress ω' β
  | done a => .done (g a)
  | waiting w => .waiting (f w)

end Progress

/-- What a waiting call asks of the outside. -/
inductive Request
  | document (path : String)
  | place (story : StoryId)
  | savePlace (story : StoryId) (node : NodeId)
  | turn
  deriving DecidableEq, Repr

/-- What the outside answers to a request; a turn is merely granted. -/
abbrev Request.Reply : Request → Type
  | document _ => Except SourceFault Json.Value
  | place _ => Except StoreFault (Option NodeId)
  | savePlace _ _ => Except StoreFault Unit
  | turn => Unit

end Gamebook
