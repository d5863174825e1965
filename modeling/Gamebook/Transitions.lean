import Gamebook.Name

/-! The channel that tells of completed navigations. It keeps the newest notices only; a receiver that
fell behind is told once how many it missed, and goes on with the oldest one kept. -/
namespace Gamebook

structure ScreenChange where
  screen : ScreenId
  generation : Nat
  deriving DecidableEq, Repr

inductive Receipt
  | change (c : ScreenChange)
  | missed (count : Nat)
  deriving DecidableEq, Repr

structure Transitions where
  dropped : Nat := 0
  kept : List ScreenChange := []
  deriving DecidableEq, Repr

namespace Transitions

def capacity : Nat := 64

/-- How many were ever sent; a new receiver begins there. -/
def tail (t : Transitions) : Nat := t.dropped + t.kept.length

def send (t : Transitions) (c : ScreenChange) : Transitions :=
  let all := t.kept ++ [c]
  let excess := all.length - capacity
  ⟨t.dropped + excess, all.drop excess⟩

/-- All that a receiver which has seen `next` notices can still get. -/
def unread (t : Transitions) (next : Nat) : List Receipt :=
  if next < t.dropped then .missed (t.dropped - next) :: t.kept.map .change
  else (t.kept.drop (next - t.dropped)).map .change

def after (next : Nat) : Receipt → Nat
  | .change _ => next + 1
  | .missed n => next + n

theorem tail_send (t : Transitions) (c : ScreenChange) : (t.send c).tail = t.tail + 1 := by
  simp only [send, tail, List.length_append, List.length_drop, List.length_cons, List.length_nil]
  omega

end Transitions
end Gamebook
