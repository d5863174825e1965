import Gamebook.Proofs.App.Flights
import Gamebook.Proofs.App.Aside
import Gamebook.Proofs.Trace

/-! The turns of calls that deliver transitions. A step of such a call does something first, and then it may
drain the channel (`begin_eq`, `resume_eq_leadOn`). Draining hands each transition that is taken to the crew,
in the order of the channel, until one has to wait: `hands_pump`. -/
namespace Gamebook

namespace Transitions

def sentSince (t u : Transitions) : List ScreenChange := u.kept.drop (u.kept.length - (u.tail - t.tail))

@[simp] theorem sentSince_self (t : Transitions) : t.sentSince t = [] := by simp [sentSince]

@[simp] theorem sentSince_send (t : Transitions) (ch : ScreenChange) : t.sentSince (t.send ch) = [ch] := by
  have hexcess : t.kept.length + 1 - capacity ≤ t.kept.length := by
    have : 0 < capacity := by decide
    omega
  have hkept : (t.send ch).kept = t.kept.drop (t.kept.length + 1 - capacity) ++ [ch] := by
    simp only [send, List.length_append, List.length_singleton]
    exact List.drop_append_of_le_length hexcess
  rw [sentSince, tail_send, hkept]
  simp

end Transitions

/-- The calls that navigate or deliver. -/
def Call.Roams : Call → Prop
  | .go _ => True
  | .tap _ => True
  | .pump => True
  | _ => False

namespace Waiting

def Roams : Waiting → Prop
  | .going _ => True
  | .tapping _ => True
  | .pumping _ => True
  | _ => False

def awaits : Waiting → List ScreenChange
  | .going (.following w) => [w.change]
  | .tapping (.dispatching w) => [w.change]
  | _ => []

/-- A call that waits for a mount while it drains the channel. -/
def drains : Waiting → Bool
  | .going (.pumping _ _) => true
  | .tapping (.pumping _ _) => true
  | .pumping _ => true
  | _ => false

end Waiting

namespace App

open Act

def awaits : Progress Waiting Answer → List ScreenChange
  | .done _ => []
  | .waiting w => w.awaits

def drains : Progress Waiting Answer → Bool
  | .done _ => false
  | .waiting w => w.drains

/-- How a step goes on after its first part: it is over, or the channel is drained. -/
inductive Next
  | rest (p : Progress Waiting Answer)
  | drain (k : Progress Telling Unit → Progress Waiting Answer)

def goingOn (screen : Option ScreenId) (p : Progress Telling Unit) : Progress Waiting Answer :=
  p.map (fun w => .going (.pumping screen w)) fun _ => .screen screen

def tappingOn (outcome : PointerOutcome) (p : Progress Telling Unit) : Progress Waiting Answer :=
  p.map (fun w => .tapping (.pumping outcome w)) fun _ => .tapped (.pointer outcome)

def pumpingOn (p : Progress Telling Unit) : Progress Waiting Answer := p.map .pumping fun _ => .nothing

variable (c : Settings)

def lead : Call → Act App Next
  | .go raw => do
    match ← navigating (Navigation.follow c.navigation raw) with
    | .waiting w => return .rest (.waiting (.going (.following w)))
    | .done screen => return .drain (goingOn screen)
  | .tap p => do
    let a ← get
    match Storybook.slotAt? ⟨a.stage, a.storybook⟩ p with
    | some _ =>
      return .rest ((← reading (Storybook.selectAt c.story p)).map (fun w => .tapping (.choosing w))
        fun node => .tapped (.slot node))
    | none =>
      match ← navigating (Navigation.dispatch c.navigation .up p) with
      | .waiting w => return .rest (.waiting (.tapping (.dispatching w)))
      | .done outcome => return .drain (tappingOn outcome)
  | .pump => return .drain pumpingOn
  | call => do return .rest (← begin c call)

def leadNotify (w : Telling) (reply : w.request.Reply) (k : Progress Telling Unit → Progress Waiting Answer) :
    Act App Next := do
  match ← resumeNotify c w reply with
  | .waiting w => return .rest (k (.waiting w))
  | .done () => return .drain k

def leadOn : (w : Waiting) → w.request.Reply → Act App Next
  | .going (.following w), reply => do return .drain (goingOn (← navigating (Navigation.settle w reply)))
  | .going (.pumping screen w), reply => leadNotify c w reply (goingOn screen)
  | .tapping (.choosing w), reply => do
    return .rest (.done (.tapped (.slot (← reading (w.resume reply)))))
  | .tapping (.dispatching w), reply => do
    return .drain (tappingOn (.navigated (← navigating (Navigation.settle w reply))))
  | .tapping (.pumping outcome w), reply => leadNotify c w reply (tappingOn outcome)
  | .pumping w, reply => leadNotify c w reply pumpingOn
  | w, reply => do return .rest (← resume c w reply)

def thenDrain : Next → Act App (Progress Waiting Answer)
  | .rest p => pure p
  | .drain k => do return k (← pump c)

variable {c}

theorem begin_eq {call : Call} (h : call.Roams) : begin c call = lead c call >>= thenDrain c := by
  match call, h with
  | .go raw, _ =>
    simp only [begin, go, lead, thenPump, bind_assoc]
    refine bind_congr fun p => ?_
    cases p with
    | waiting w => rfl
    | done screen =>
      simp only [bind_assoc, pure_bind, thenDrain]
      exact bind_congr fun p => by cases p <;> rfl
  | .tap p, _ =>
    simp only [begin, tap, lead, bind_assoc]
    refine bind_congr fun a => ?_
    cases Storybook.slotAt? ⟨a.stage, a.storybook⟩ p with
    | some slot =>
      simp only [bind_assoc, pure_bind, thenDrain]
      exact bind_congr fun p => by cases p <;> rfl
    | none =>
      simp only [bind_assoc]
      refine bind_congr fun p => ?_
      cases p with
      | waiting w => rfl
      | done outcome =>
        simp only [thenPumpTap, bind_assoc, pure_bind, thenDrain]
        exact bind_congr fun p => by cases p <;> rfl
  | .pump, _ => rfl

theorem resumePump_bind {w : Telling} {reply : w.request.Reply} {k : Progress Telling Unit → Progress Waiting Answer} :
    (resumePump c w reply >>= fun p => pure (k p)) = leadNotify c w reply k >>= thenDrain c := by
  simp only [resumePump, leadNotify, bind_assoc]
  refine bind_congr fun p => ?_
  cases p with
  | waiting w => rfl
  | done => rfl

theorem resume_eq_leadOn {w : Waiting} (h : w.Roams) (reply : w.request.Reply) :
    resume c w reply = leadOn c w reply >>= thenDrain c := by
  match w, h, reply with
  | .going (.following w), _, reply =>
    simp only [resume, Going.resume, thenPump, leadOn, bind_assoc, pure_bind, thenDrain]
    exact bind_congr fun screen => bind_congr fun p => by cases p <;> rfl
  | .going (.pumping screen w), _, reply =>
    refine Eq.trans ?_ resumePump_bind
    simp only [resume, Going.resume, bind_assoc, pure_bind]
    exact bind_congr fun p => by cases p <;> rfl
  | .tapping (.choosing w), _, reply =>
    simp only [resume, Tapping.resume, leadOn, bind_assoc, pure_bind, thenDrain]
    rfl
  | .tapping (.dispatching w), _, reply =>
    simp only [resume, Tapping.resume, thenPumpTap, leadOn, bind_assoc, pure_bind, thenDrain]
    exact bind_congr fun screen => bind_congr fun p => by cases p <;> rfl
  | .tapping (.pumping outcome w), _, reply =>
    refine Eq.trans ?_ resumePump_bind
    simp only [resume, Tapping.resume, bind_assoc, pure_bind]
    exact bind_congr fun p => by cases p <;> rfl
  | .pumping w, _, reply => exact resumePump_bind

variable (c) in
/-- Transitions are handed to the crew one after another, each as soon as it is taken from the channel; the
last of them may have to wait. -/
inductive Hands : App → List ScreenChange → App → Progress Telling Unit → Prop
  | nothing (a : App) : Hands a [] a (.done ())
  | waiting {a b : App} {ch : ScreenChange} {notices : List Notice} {w : Telling} :
      notify c ch { a with taken := a.taken + 1 } = ⟨b, notices, .waiting w⟩ → Hands a [ch] b (.waiting w)
  | told {a b d : App} {ch : ScreenChange} {chs : List ScreenChange} {notices : List Notice}
      {p : Progress Telling Unit} :
      notify c ch { a with taken := a.taken + 1 } = ⟨b, notices, .done ()⟩ → Hands b chs d p →
      Hands a (ch :: chs) d p

def channel (a : App) : Navigation × Nat := (a.navigation, a.taken)

theorem keeps_channel_reading {α : Type} (x : Act (Staged Storybook) α) : Keeps channel (reading x) := fun _ => rfl

theorem keeps_channel_round (change : ScreenChange) (positions : List Nat) :
    Keeps channel ((crew c).round change positions) := by
  refine (crew c).along_round (way_same channel) (fun who => ?_) positions
  cases who with
  | catalog => exact fun _ => rfl
  | story => exact fun _ => rfl

theorem keeps_channel_notify (change : ScreenChange) : Keeps channel (notify c change) :=
  .get_bind fun _ => keeps_channel_round change _

theorem keeps_channel_resumeNotify (w : Telling) (reply : w.request.Reply) :
    Keeps channel (resumeNotify c w reply) := by
  refine (keeps_channel_reading _).bind fun p => ?_
  cases p with
  | waiting inner => exact .pure _
  | done => exact .get_bind fun _ => keeps_channel_round w.change _

theorem untold_navigation : Untold c App.navigation where
  taken _ _ := rfl
  enter _ _ := rfl

/-- What draining a queue comes to: some of it is handed on, all of it unless a call has to wait. -/
def Drained (c : Settings) (a : App) (queue : List ScreenChange) (b : App) (p : Progress Telling Unit) : Prop :=
  ∃ chs left, queue = chs ++ left ∧ Hands c a chs b p ∧ b.taken = a.taken + chs.length ∧ (p = .done () → left = [])

theorem drained_deliver (queue : List ScreenChange) (a : App) :
    Drained c a queue (deliver c (queue.map .change) a).state (deliver c (queue.map .change) a).value := by
  induction queue generalizing a with
  | nil => exact ⟨[], [], rfl, .nothing a, rfl, fun _ => rfl⟩
  | cons ch queue ih =>
    have hkeep := keeps_channel_notify (c := c) ch { a with taken := a.taken + 1 }
    simp only [List.map_cons, deliver, bind_apply, modify_apply, Transitions.after]
    generalize hmade : notify c ch { a with taken := a.taken + 1 } = made at hkeep
    obtain ⟨b, notices, p⟩ := made
    have htaken : b.taken = a.taken + 1 := (Prod.mk.inj hkeep).2
    cases p with
    | waiting w => exact ⟨[ch], queue, rfl, .waiting hmade, htaken, (by cases ·)⟩
    | done =>
      obtain ⟨chs, left, hsplit, hhands, hrest, hdone⟩ := ih b
      refine ⟨ch :: chs, left, by rw [hsplit, List.cons_append], .told hmade hhands, ?_, hdone⟩
      show _ = a.taken + (chs.length + 1)
      rw [hrest, htaken, Nat.add_assoc, Nat.add_comm 1]

theorem drained_pump {a : App} {queue : List ScreenChange} (h : a.navigation.transitions.Holds a.taken queue) :
    Drained c a queue (pump c a).state (pump c a).value := by
  rw [pump, bind_get, h.unread_eq]
  exact drained_deliver queue a

end App
end Gamebook
