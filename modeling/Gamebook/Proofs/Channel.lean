import Gamebook.Transitions

/-! Receivers that keep up. As long as fewer transitions are unread than the channel keeps, a receiver
misses none: what it finds is a queue, to which each transition sent is added and from which each receipt
takes the first. -/
namespace Gamebook.Transitions

/-- A receiver that has seen `next` transitions has just `queue` before it, and missed nothing. -/
structure Holds (t : Transitions) (next : Nat) (queue : List ScreenChange) : Prop where
  kept : t.dropped ≤ next
  queued : t.kept.drop (next - t.dropped) = queue
  tail : next + queue.length = t.tail

variable {t : Transitions} {next : Nat} {queue : List ScreenChange}

theorem holds_empty : Holds {} 0 [] := ⟨Nat.le_refl _, rfl, rfl⟩

theorem Holds.unread_eq (h : t.Holds next queue) : t.unread next = queue.map .change := by
  rw [unread, if_neg (Nat.not_lt.2 h.kept), h.queued]

theorem Holds.after {c : ScreenChange} (h : t.Holds next (c :: queue)) : t.Holds (next + 1) queue where
  kept := Nat.le_succ_of_le h.kept
  queued := by
    rw [Nat.succ_sub h.kept, ← List.drop_drop (i := 1), h.queued]
    rfl
  tail := by
    rw [← h.tail, List.length_cons]
    omega

/-- A receiver that takes the first part of the queue has the rest before it. -/
theorem Holds.advance {first rest : List ScreenChange} (h : t.Holds next (first ++ rest)) :
    t.Holds (next + first.length) rest := by
  induction first generalizing next with
  | nil => exact h
  | cons c first ih =>
    rw [List.length_cons, Nat.add_comm first.length, ← Nat.add_assoc]
    exact ih h.after

theorem Holds.drain (h : t.Holds next queue) : t.Holds (next + queue.length) [] :=
  Holds.advance (by rwa [List.append_nil])

theorem Holds.send (h : t.Holds next queue) (c : ScreenChange) (hroom : queue.length < capacity) :
    (t.send c).Holds next (queue ++ [c]) := by
  have hk := h.kept
  have ht : next + queue.length = t.dropped + t.kept.length := h.tail
  have hexcess : t.kept.length + 1 - capacity ≤ next - t.dropped := by omega
  refine ⟨?_, ?_, ?_⟩
  · show t.dropped + ((t.kept ++ [c]).length - capacity) ≤ next
    rw [List.length_append, List.length_singleton]
    omega
  · show ((t.kept ++ [c]).drop ((t.kept ++ [c]).length - capacity)).drop
      (next - (t.dropped + ((t.kept ++ [c]).length - capacity))) = queue ++ [c]
    rw [List.length_append, List.length_singleton, List.drop_drop, ← Nat.sub_sub,
      Nat.add_sub_cancel' hexcess, List.drop_append_of_le_length (by omega), h.queued]
  · rw [tail_send, ← h.tail, List.length_append, List.length_singleton]
    rfl

end Gamebook.Transitions
