import Gamebook.Proofs.App.Spot

/-! What a call in flight is going to answer. Each step of a call that does not choose a screen any more
leaves it with fewer requests to make, and with the same answer ahead: `nearer_resume`. -/
namespace Gamebook

theorem Progress.map_map {ω ω' ω'' α β γ : Type} (f : ω → ω') (g : α → β) (f' : ω' → ω'') (g' : β → γ)
    (p : Progress ω α) : (p.map f g).map f' g' = p.map (fun w => f' (f w)) fun v => g' (g v) := by
  cases p <;> rfl

/-- How many requests a mount makes after the one it waits for, at most. -/
def Mounting.requests : Mounting → Nat
  | .locating _ _ => 2
  | .opening _ _ => 1
  | .recalling _ _ => 0

namespace Storybook

theorem requests_located {v : Visit} {locator : Option Locator} {s : Staged Storybook} {w : Mounting}
    (hw : (located v locator s).value = .waiting w) : w.requests ≤ 1 := by
  have h := located_located v locator s
  generalize located v locator s = made at h hw
  cases h with
  | missing => cases hw
  | known =>
    cases hw
    exact Nat.zero_le 1
  | opening =>
    cases hw
    exact Nat.le_refl 1

end Storybook

theorem Mounting.requests_resume {c : StorySettings} {w w' : Mounting} {reply : w.request.Reply}
    {s : Staged Storybook} (hw : (w.resume c reply s).value = .waiting w') : w'.requests < w.requests := by
  match w, reply with
  | .locating v w, reply => exact Nat.lt_succ_of_le (Storybook.requests_located hw)
  | .opening v url, .error cause =>
    cases hw
    exact Nat.one_pos
  | .opening v url, .ok doc =>
    obtain ⟨notices, heq⟩ := Mounting.resume_opening c v url doc s
    rw [heq] at hw
    cases hw
    exact Nat.one_pos
  | .recalling v graph, .error cause => cases hw
  | .recalling v graph, .ok saved => cases hw

namespace App

def Booting.requests : Booting → Nat
  | .turn _ => 6
  | .opening (.registry _ _) => 5
  | .opening (.regions _) => 4
  | .starting _ => 3
  | .pumping w => w.inner.requests

def Going.requests : Going → Nat
  | .following _ => 3
  | .pumping _ w => w.inner.requests

def Tapping.requests : Tapping → Nat
  | .choosing _ => 0
  | .dispatching _ => 3
  | .pumping _ w => w.inner.requests

def Going.screen : Going → Option ScreenId
  | .following w => some w.screen
  | .pumping screen _ => screen

def Tapping.outcome : Tapping → TapOutcome
  | .choosing w => .slot (some w.target)
  | .dispatching w => .pointer (.navigated (some w.screen))
  | .pumping outcome _ => .pointer outcome

end App

namespace Waiting

/-- How many requests a call of someone who plays makes after the one it waits for, at most. -/
def requests : Waiting → Nat
  | .booting w => w.requests
  | .going w => w.requests
  | .tapping w => w.requests
  | .pumping w => w.inner.requests
  | _ => 0

def outcome : Waiting → Answer
  | .booting _ => .loaded (.ok ())
  | .going w => .screen w.screen
  | .tapping w => .tapped w.outcome
  | .saving w => .node (some w.target)
  | _ => .nothing

end Waiting

inductive Nearer (w : Waiting) : Progress Waiting Answer → Prop
  | done : Nearer w (.done w.outcome)
  | waiting {w' : Waiting} : w'.Bound → w'.outcome = w.outcome → w'.requests < w.requests →
      Nearer w (.waiting w')

namespace App

variable {answers : (r : Request) → r.Reply → Prop} {c : Settings} {first : Catalog}
variable {told : Multiset Taken} {queue : List ScreenChange} {others : Multiset Waiting} {a : App}

theorem Mounting.requests_lt_three (w : Mounting) : w.requests < 3 := by
  cases w <;> simp [Mounting.requests]

/-- How a call waits for a mount, with the same answer ahead as before. -/
structure Onward (w : Waiting) (tag : Telling → Waiting) : Prop where
  bound : ∀ t, (tag t).Bound
  outcome : ∀ t, (tag t).outcome = w.outcome
  requests : ∀ t, (tag t).requests = t.inner.requests

section Tags

variable {w : Waiting} {tag : Telling → Waiting}

/-- After a pump a call waits for a mount, or has its answer. -/
theorem Onward.nearer (h : Onward w tag) (hw : 3 ≤ w.requests) (p : Progress Telling Unit) :
    Nearer w (p.map tag fun _ => w.outcome) := by
  cases p with
  | done => exact .done
  | waiting t =>
    refine .waiting (h.bound t) (h.outcome t) ?_
    rw [h.requests]
    exact Nat.lt_of_lt_of_le (Mounting.requests_lt_three t.inner) hw

theorem Aloft.resumePump_eq {t : Telling} (h : Aloft answers c first told queue ({w} + others) a)
    (hmounts : w.mounts = {t.inner}) (hposition : t.position = 1) (reply : t.request.Reply) :
    ∃ notices, resumePump c t reply a = ⟨(reading (t.inner.resume c.story reply) a).state, notices,
      (reading (t.inner.resume c.story reply) a).value.map (fun inner => { t with inner }) fun _ => ()⟩ := by
  rw [aloft_singleton_add, hmounts] at h
  obtain ⟨hkept, -, -, hseated⟩ := h
  obtain ⟨status, hroster⟩ := hkept.crew
  have hhears := hkept.hears_of_mount (Multiset.mem_add.2 (.inl (Multiset.mem_singleton_self t.inner)))
  have hchannel := hkept.channel
  rw [hseated.queue_eq_nil hhears] at hchannel
  exact App.resumePump_eq hroster hposition reply hchannel

theorem Aloft.nearer (tag : Telling → Waiting) {t : Telling}
    (h : Aloft answers c first told queue ({tag t} + others) a)
    (hmounts : (tag t).mounts = {t.inner}) (hposition : t.position = 1) (honward : Onward (tag t) tag)
    (reply : t.request.Reply) :
    Nearer (tag t) ((resumePump c t reply a).value.map tag fun _ => (tag t).outcome) := by
  obtain ⟨notices, hresume⟩ := h.resumePump_eq hmounts hposition reply
  rw [hresume]
  cases hv : (reading (t.inner.resume c.story reply) a).value with
  | done outcome => exact .done
  | waiting inner =>
    refine .waiting (honward.bound _) (honward.outcome _) ?_
    rw [honward.requests, honward.requests]
    exact Mounting.requests_resume hv

end Tags

theorem onward_booting (b : Booting) : Onward (.booting b) fun t => .booting (.pumping t) :=
  ⟨fun _ => trivial, fun _ => rfl, fun _ => rfl⟩

theorem onward_going {g : Going} {screen : Option ScreenId} (h : g.screen = screen) :
    Onward (.going g) fun t => .going (.pumping screen t) :=
  ⟨fun _ => trivial, fun _ => congrArg Answer.screen h.symm, fun _ => rfl⟩

theorem onward_tapping {t : Tapping} {outcome : PointerOutcome} (h : t.outcome = .pointer outcome) :
    Onward (.tapping t) fun t => .tapping (.pumping outcome t) :=
  ⟨fun _ => trivial, fun _ => congrArg Answer.tapped h.symm, fun _ => rfl⟩

theorem nearer_bootStarted {b : Booting} (hb : 3 ≤ b.requests) (failed : Nat) (a : App) :
    Nearer (.booting b) ((bootStarted c failed a).value.map .booting .loaded) := by
  have hvalue : (bootStarted c failed a).value.map Waiting.booting Answer.loaded =
      (pump c a).value.map (fun t => .booting (.pumping t)) fun _ => .loaded (.ok ()) := by
    by_cases hfailed : 0 < failed <;> cases hv : (pump c a).value <;>
      simp [bootStarted, hfailed, Act.bind_apply, hv, ready_apply, Progress.map]
  rw [hvalue]
  exact (onward_booting b).nearer hb _

theorem nearer_bootOpened {b : Booting} (hb : 4 ≤ b.requests) (a : App) :
    Nearer (.booting b) ((bootOpened c (.ok ()) a).value.map .booting .loaded) := by
  simp only [bootOpened, Act.bind_apply]
  cases (startAll c a).value with
  | done failed => exact nearer_bootStarted (Nat.le_of_succ_le hb) failed _
  | waiting w => exact .waiting trivial rfl hb

theorem nearer_registry {path : String} {reply : Except SourceFault Json.Value} {registry : Screen.Registry}
    (hloaded : Screen.Registry.ofReply path reply = .ok registry) (link : Option String) (a : App) :
    Nearer (.booting (.opening (.registry path link)))
      ((Booting.resume c (.opening (.registry path link)) reply a).value.map .booting .loaded) := by
  have hx := Opening.resume_of_ok c link hloaded
  obtain ⟨made, -, -, hvalue⟩ := Navigation.went_enter c.navigation registry link ⟨a.stage, a.navigation⟩
  have hvalue : (navigating (Navigation.enter c.navigation registry link) a).value =
    made.value.map Opening.regions fun _ => .ok () := hvalue
  simp only [Booting.resume, hx, Act.bind_apply, hvalue]
  cases made.value with
  | done screen => exact nearer_bootOpened (b := .opening (.registry path link)) (Nat.le_succ 4) _
  | waiting f => exact .waiting trivial rfl (Nat.lt_succ_self 4)

theorem nearer_resume {w : Waiting} (h : Aloft answers c first told queue ({w} + others) a) (hbound : w.Bound)
    (reply : w.request.Reply) : Nearer w (resume c w reply a).value := by
  have hregular := h.regular w (Multiset.mem_add.2 (.inl (Multiset.mem_singleton_self w)))
  match w, hregular, hbound, reply with
  | .booting (.opening (.regions f)), _, _, reply =>
    exact nearer_bootOpened (b := .opening (.regions f)) (Nat.le_refl 4) _
  | .booting (.starting w), hstarting, _, reply =>
    obtain ⟨hkept, -, -, hseated⟩ := aloft_singleton_add.1 h
    obtain ⟨-, -, -, hhears, -⟩ := hseated.seat
    obtain ⟨status, hroster⟩ := hkept.crew
    rw [hhears] at hroster
    obtain ⟨status', failed, notices, -, hstarted⟩ := resumeStartAll_eq (c := c) hroster hstarting.1 reply
    have hnearer := nearer_bootStarted (c := c) (b := .starting w) (Nat.le_refl 3) failed
      (resumeStartAll c w reply a).state
    rw [hstarted] at hnearer
    simp only [resume, Booting.resume, Act.bind_apply, hstarted]
    exact hnearer
  | .booting (.pumping t), hposition, _, reply =>
    have hvalue : (resume c (.booting (.pumping t)) reply a).value =
        (resumePump c t reply a).value.map (fun t => .booting (.pumping t)) fun _ => .loaded (.ok ()) := by
      simp only [resume, Booting.resume, Act.bind_apply]
      cases (resumePump c t reply a).value <;> rfl
    rw [hvalue]
    exact h.nearer (fun t => .booting (.pumping t)) rfl hposition (onward_booting _) reply
  | .going (.following f), _, _, reply =>
    have hscreen : (navigating (Navigation.settle f reply) a).value = some f.screen :=
      Navigation.settle_value ..
    simp only [resume, Going.resume, thenPump, Act.bind_apply, Act.pure_apply, hscreen, Progress.map_map]
    exact (onward_going (g := .following f) rfl).nearer (Nat.le_refl 3) _
  | .tapping (.dispatching f), _, _, reply =>
    have hscreen : (navigating (Navigation.settle f reply) a).value = some f.screen :=
      Navigation.settle_value ..
    simp only [resume, Tapping.resume, thenPumpTap, Act.bind_apply, Act.pure_apply, hscreen, Progress.map_map]
    exact (onward_tapping (t := .dispatching f) rfl).nearer (Nat.le_refl 3) _
  | .tapping (.choosing s), _, _, reply => cases reply <;> exact .done
  | .saving s, _, _, reply => cases reply <;> exact .done
  | .going (.pumping screen t), hposition, _, reply =>
    simp only [resume, Going.resume, Act.bind_apply, Act.pure_apply, Progress.map_map]
    exact h.nearer (fun t => .going (.pumping screen t)) rfl hposition (onward_going rfl) reply
  | .tapping (.pumping outcome t), hposition, _, reply =>
    simp only [resume, Tapping.resume, Act.bind_apply, Act.pure_apply, Progress.map_map]
    exact h.nearer (fun t => .tapping (.pumping outcome t)) rfl hposition (onward_tapping rfl) reply
  | .pumping t, hposition, _, reply =>
    exact h.nearer .pumping rfl hposition ⟨fun _ => trivial, fun _ => rfl, fun _ => rfl⟩ reply

end App
end Gamebook
