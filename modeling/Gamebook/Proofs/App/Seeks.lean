import Gamebook.Proofs.App.Bearings
import Gamebook.Proofs.Waits

/-! What calls ask for to read a registry. Whoever waits for a registry has asked for the document that the settings
name: `seeks_of_trace`. So every registry that comes is one that this document holds. -/
namespace Gamebook

def Opening.Seeks (path : String) : Opening → Prop
  | .registry wanted _ => wanted = path
  | .regions _ => True

def App.Booting.Seeks (path : String) : App.Booting → Prop
  | .opening w => w.Seeks path
  | _ => True

/-- The registry that a call may wait for is the one at this path. -/
def Waiting.Seeks (path : String) : Waiting → Prop
  | .opening w => w.Seeks path
  | .booting w => w.Seeks path
  | _ => True

namespace Navigation

open Act

variable {c : Settings}

theorem seeks_start (link : Option String) :
    Waits (fun _ w => Opening.Seeks c.content.registryPath w) (start c link) := by
  intro s
  simp only [start, bind_get]
  cases s.part.registry with
  | none => exact Progress.each_waiting rfl
  | some _ => exact Progress.each_done _

theorem seeks_resume (path : String) (w : Opening) (reply : w.request.Reply) :
    Waits (fun _ w => Opening.Seeks path w) (w.resume c reply) := by
  match w, reply with
  | .registry wanted link, reply =>
    cases hloaded : Screen.Registry.ofReply wanted reply with
    | error cause =>
      rw [Opening.resume_of_error c link hloaded]
      exact .done _
    | ok registry =>
      rw [Opening.resume_of_ok c link hloaded]
      exact .bind fun _ => .bind fun _ => .bind fun _ => .of_forall fun _ _ => trivial
  | .regions w, reply => exact .bind fun _ => .done _

end Navigation

section Read

variable {answers : (r : Request) → r.Reply → Prop} {path : String} {registry : Screen.Registry} {link : Option String}

theorem Opening.read_of_brings (w : Opening) {reply : w.request.Reply} (hseeks : w.Seeks path)
    (hreply : answers w.request reply) (hcame : w.brings? reply = some (registry, link)) :
    ∃ read, answers (.document path) read ∧ Screen.Registry.ofReply path read = .ok registry := by
  cases w with
  | registry wanted asker =>
    obtain rfl : wanted = path := hseeks
    refine ⟨reply, hreply, ?_⟩
    simp only [Opening.brings?] at hcame
    cases hloaded : Screen.Registry.ofReply wanted reply with
    | error cause =>
      rw [hloaded] at hcame
      cases hcame
    | ok loaded =>
      rw [hloaded] at hcame
      cases hcame
      rfl
  | regions w => cases hcame

theorem Waiting.read_of_brings (w : Waiting) {reply : w.request.Reply} (hseeks : w.Seeks path)
    (hreply : answers w.request reply) (hcame : w.brings? reply = some (registry, link)) :
    ∃ read, answers (.document path) read ∧ Screen.Registry.ofReply path read = .ok registry := by
  cases w with
  | opening w => exact w.read_of_brings hseeks hreply hcame
  | booting w =>
    cases w with
    | opening w => exact w.read_of_brings hseeks hreply hcame
    | _ => cases hcame
  | _ => cases hcame

end Read

namespace App

open Act

variable {c : Settings} {path : String}

theorem waits_navigating {ω α : Type} {P : ω → Prop} {x : Act (Staged Navigation) (Progress ω α)}
    (h : Waits (fun _ => P) x) : Waits (fun _ => P) (navigating x) := fun a => h a.chart

theorem waits_ready {P : App → Booting → Prop} : Waits P ready := .bind fun _ => .bind fun _ => .done _

theorem seeks_bootStarted (path : String) (failed : Nat) :
    Waits (fun _ w => Booting.Seeks path w) (bootStarted c failed) := by
  unfold bootStarted
  dsimp only
  split
  on_goal 1 => refine .bind fun _ => ?_
  all_goals exact .bind_any (fun _ => waits_ready) (fun _ => rfl) fun _ _ => trivial

theorem seeks_bootOpened (path : String) (result : Except LoadFault Unit) :
    Waits (fun _ w => Booting.Seeks path w) (bootOpened c result) := by
  cases result with
  | error cause => exact .bind fun _ => .bind fun _ => .done _
  | ok => exact .bind_any (seeks_bootStarted path) (fun _ => rfl) fun _ _ => trivial

theorem seeks_takeTurn (link : Option String) :
    Waits (fun _ w => Booting.Seeks c.content.registryPath w) (takeTurn c link) := by
  refine .bind fun a => ?_
  split
  · exact .done _
  · refine .bind fun _ => (waits_navigating (Navigation.seeks_start link)).bind_progress ?_ (fun _ => rfl) fun _ _ h => h
    exact seeks_bootOpened _

theorem seeks_boot (link : Option String) :
    Waits (fun _ w => Booting.Seeks c.content.registryPath w) (boot c link) := by
  refine .bind fun a => ?_
  split
  · exact .waiting fun _ => trivial
  · exact seeks_takeTurn link

theorem seeks_booting (w : Booting) (reply : w.request.Reply) :
    Waits (fun _ w => Booting.Seeks c.content.registryPath w) (w.resume c reply) := by
  match w, reply with
  | .turn link, () => exact seeks_takeTurn link
  | .opening w, reply =>
    refine (waits_navigating (Navigation.seeks_resume c.content.registryPath w reply)).bind_progress ?_ (fun _ => rfl)
      fun _ _ h => h
    exact seeks_bootOpened _
  | .starting w, reply => exact .bind_any (seeks_bootStarted _) (fun _ => rfl) fun _ _ => trivial
  | .pumping w, reply => exact .bind_any (fun _ => waits_ready) (fun _ => rfl) fun _ _ => trivial

theorem seeks_begin (call : Call) : Waits (fun _ w => Waiting.Seeks c.content.registryPath w) (begin c call) := by
  cases call with
  | start link => exact (waits_navigating (Navigation.seeks_start link)).map fun _ _ h => h
  | boot link => exact (seeks_boot link).map fun _ _ h => h
  | fit w => exact .waiting fun _ => trivial
  | _ => exact .of_forall fun _ _ => trivial

theorem seeks_resume (w : Waiting) (reply : w.request.Reply) :
    Waits (fun _ w => Waiting.Seeks c.content.registryPath w) (resume c w reply) := by
  cases w with
  | opening w => exact (waits_navigating (Navigation.seeks_resume _ w reply)).map fun _ _ h => h
  | booting w => exact (seeks_booting w reply).map fun _ _ h => h
  | following | dispatching | fitting | preloading | locating | saving | retrying => exact .bind fun _ => .done _
  | going | tapping | pumping | entering | mounting | starting | notifying => exact .of_forall fun _ _ => trivial

variable {a : App} {allowed : Call → Prop} {answers : (r : Request) → r.Reply → Prop}
variable {es : List (protocol c).Event} {e : (protocol c).Event} {f : (protocol c).Flight}

theorem seeks_of_trace (h : (protocol c).Trace allowed answers ⟨a, []⟩ es f) :
    ∀ w ∈ f.pending, w.Seeks c.content.registryPath := by
  have hrun := Protocol.run_iff_trace.2 ⟨es, h, rfl⟩
  refine Protocol.Run.induction (P := protocol c)
    (motive := fun _ _ pending => ∀ w ∈ pending, w.Seeks c.content.registryPath)
    (fun w hw => absurd hw (Multiset.notMem_zero w)) ?_ ?_ hrun
  · intro _ s others call _ hothers w hw
    rcases Multiset.mem_add.1 hw with hnew | hold
    · exact seeks_begin call s w hnew
    · exact hothers w hold
  · intro _ s others w reply _ _ hothers w' hw'
    rcases Multiset.mem_add.1 hw' with hnew | hold
    · exact seeks_resume w reply s w' hnew
    · exact hothers w' (Multiset.mem_add.2 (.inr hold))

theorem read_of_came {registry : Screen.Registry} {link : Option String}
    (h : (protocol c).Trace allowed answers ⟨a, []⟩ es f) (he : e ∈ es) (hcame : came? e = some (registry, link)) :
    ∃ reply, answers (.document c.content.registryPath) reply ∧
      Screen.Registry.ofReply c.content.registryPath reply = .ok registry := by
  obtain ⟨later, earlier, rfl⟩ := List.append_of_mem he
  obtain ⟨hearlier, hhappens, -⟩ := h.cut
  have hseeks := seeks_of_trace hearlier
  cases hhappens with
  | begin => cases hcame
  | @resume s before after course w reply hw _ hreply =>
    exact w.read_of_brings (hseeks w (Protocol.Event.mem_pending_resumed (P := protocol c) reply hw)) hreply hcame

end App
end Gamebook
