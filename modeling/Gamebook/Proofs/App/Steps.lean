import Gamebook.App.Call
import Gamebook.Proofs.Channel
import Gamebook.Proofs.Interleaving
import Gamebook.Proofs.Navigation.Steps
import Gamebook.Proofs.Storybook.Visits

/-! What the steps of a player do to the player as a whole. A player whose stories are not started yet takes
transitions from the channel without telling anyone; one whose stories are started tells them of each. The
first is `pump_deaf`, the second `pump_hearing`; the start itself is `starts_startAll`. -/
namespace Gamebook

namespace Navigation

/-- A tap that moves on does what a navigation does; any other does nothing. -/
theorem went_dispatch (c : NavigationSettings) (kind : PointerKind) (p : Stage.Point)
    (s : Staged Navigation) :
    ∃ made, Went c s made ∧ (dispatch c kind p s).state = made.state ∧
      (dispatch c kind p s).value.pending = made.value.pending := by
  simp only [dispatch, Act.bind_get]
  cases target? s.stage kind p with
  | none => exact ⟨_, .refused [], rfl, rfl⟩
  | some region =>
    simp only [perform]
    cases if region.verb = goVerb then region.object? else none with
    | some target =>
      refine ⟨_, went_go c (Screen.Route.ofText c.aliases target) s, rfl, ?_⟩
      show (Progress.map _ _ (follow c target s).value).pending = _
      rw [Progress.pending_map]
      exact Multiset.map_id _
    | none => exact ⟨_, .refused [], rfl, rfl⟩

end Navigation

namespace Crew

open Roster

variable {κ σ ω π : Type} (crew : Crew κ σ ω π) {s : σ} {i : Nat} {rest : List Nat} {who : κ}

theorem round_done (h : (crew.roster s)[i]? = some ⟨who, .active⟩) {change : ScreenChange}
    (hv : (crew.tell who change s).value = .done ()) :
    crew.round change (i :: rest) s =
      ⟨(crew.round change rest (crew.tell who change s).state).state,
        (crew.tell who change s).notices ++ (crew.round change rest (crew.tell who change s).state).notices,
        (crew.round change rest (crew.tell who change s).state).value⟩ := by
  rw [round, Act.bind_get, h]
  simp only [Act.bind_apply, hv]

theorem round_waiting (h : (crew.roster s)[i]? = some ⟨who, .active⟩) {change : ScreenChange} {w : π}
    (hv : (crew.tell who change s).value = .waiting w) :
    crew.round change (i :: rest) s =
      ⟨(crew.tell who change s).state, (crew.tell who change s).notices ++ [], .waiting ⟨change, i, w⟩⟩ := by
  rw [round, Act.bind_get, h]
  simp only [Act.bind_apply, hv, Act.pure_apply]

end Crew

namespace App

def hears (a : App) : Bool := a.roster.contains ⟨.story, .active⟩

def stories (a : App) : Staged Storybook := ⟨a.stage, a.storybook⟩

/-- The crew of a player, whatever became of the catalog. -/
def crewOf (status : Roster.Status) (hears : Bool) : Roster Collaborator :=
  [⟨.catalog, status⟩, ⟨.story, if hears then .active else .pending⟩]

theorem hears_of_crewOf {a : App} {status : Roster.Status} {hears : Bool}
    (h : a.roster = crewOf status hears) : a.hears = hears := by
  unfold App.hears
  rw [h]
  cases hears <;> cases status <;> rfl

variable {c : Settings} {a : App} {status : Roster.Status}

theorem notify_deaf (h : a.roster = crewOf status false) (ch : ScreenChange) :
    notify c ch a = ⟨a, [], .done ()⟩ := by
  obtain ⟨stage, navigation, storybook, roster, taken, booted, booting⟩ := a
  subst h
  cases status <;> rfl

theorem notify_hearing (h : a.roster = crewOf status true) (ch : ScreenChange) :
    ∃ notices, notify c ch a = ⟨(reading (Storybook.enter c.navigation ch) a).state, notices,
      (reading (Storybook.enter c.navigation ch) a).value.map (Roster.Round.mk ch 1) fun _ => ()⟩ := by
  have hcatalog : notify c ch a = (crew c).round ch [1] a := by
    obtain ⟨stage, navigation, storybook, roster, taken, booted, booting⟩ := a
    subst h
    cases status <;> rfl
  have hstory : ((crew c).roster a)[1]? = some ⟨.story, .active⟩ := by
    show a.roster[1]? = _
    rw [h]
    rfl
  have htell : ((crew c).tell .story ch a).value =
      (reading (Storybook.enter c.navigation ch) a).value.map id fun _ => () := rfl
  rw [hcatalog]
  cases hv : (reading (Storybook.enter c.navigation ch) a).value with
  | done =>
    rw [hv] at htell
    rw [(crew c).round_done hstory htell]
    exact ⟨_, rfl⟩
  | waiting w =>
    rw [hv] at htell
    rw [(crew c).round_waiting hstory htell]
    exact ⟨_, rfl⟩

theorem deliver_deaf (h : a.roster = crewOf status false) (queue : List ScreenChange) :
    deliver c (queue.map .change) a = ⟨{ a with taken := a.taken + queue.length }, [], .done ()⟩ := by
  induction queue generalizing a with
  | nil => rfl
  | cons ch queue ih =>
    have hnotify := notify_deaf (c := c) (a := { a with taken := a.taken + 1 }) h ch
    have hrest := ih (a := { a with taken := a.taken + 1 }) h
    rw [Nat.add_assoc, Nat.add_comm 1] at hrest
    simp only [List.map_cons, deliver, Act.bind_apply, Act.modify_apply, Transitions.after, hnotify, hrest,
      List.length_cons, List.append_nil]

theorem pump_deaf (h : a.roster = crewOf status false) {queue : List ScreenChange}
    (hq : a.navigation.transitions.Holds a.taken queue) :
    pump c a = ⟨{ a with taken := a.taken + queue.length }, [], .done ()⟩ := by
  rw [pump, Act.bind_get, hq.unread_eq, deliver_deaf h]

theorem pump_nil (hq : a.navigation.transitions.Holds a.taken []) : pump c a = ⟨a, [], .done ()⟩ := by
  rw [pump, Act.bind_get, hq.unread_eq]
  rfl

theorem deliver_hearing (h : a.roster = crewOf status true) (ch : ScreenChange) :
    ∃ notices, deliver c [.change ch] a =
      ⟨(reading (Storybook.enter c.navigation ch) { a with taken := a.taken + 1 }).state, notices,
        (reading (Storybook.enter c.navigation ch) a).value.map (Roster.Round.mk ch 1) fun _ => ()⟩ := by
  obtain ⟨notices, hnotify⟩ := notify_hearing (c := c) (a := { a with taken := a.taken + 1 }) h ch
  have hread : (reading (Storybook.enter c.navigation ch) { a with taken := a.taken + 1 }).value =
      (reading (Storybook.enter c.navigation ch) a).value := rfl
  rw [hread] at hnotify
  simp only [deliver, Act.bind_apply, Act.modify_apply, Transitions.after, hnotify]
  cases hv : (reading (Storybook.enter c.navigation ch) a).value <;> exact ⟨_, rfl⟩

theorem pump_hearing (h : a.roster = crewOf status true) {ch : ScreenChange}
    (hq : a.navigation.transitions.Holds a.taken [ch]) :
    ∃ notices, pump c a =
      ⟨(reading (Storybook.enter c.navigation ch) { a with taken := a.taken + 1 }).state, notices,
        (reading (Storybook.enter c.navigation ch) a).value.map (Roster.Round.mk ch 1) fun _ => ()⟩ := by
  rw [pump, Act.bind_get, hq.unread_eq]
  exact deliver_hearing h ch

theorem resumePump_eq {hears : Bool} (h : a.roster = crewOf status hears) {w : Telling}
    (hw : w.position = 1) (reply : w.request.Reply)
    (hq : a.navigation.transitions.Holds a.taken []) :
    ∃ notices, resumePump c w reply a = ⟨(reading (w.inner.resume c.story reply) a).state, notices,
      (reading (w.inner.resume c.story reply) a).value.map (fun inner => { w with inner }) fun _ => ()⟩ := by
  simp only [resumePump, resumeNotify, Act.bind_apply]
  cases hv : (reading (w.inner.resume c.story reply) a).value with
  | waiting inner => exact ⟨_, rfl⟩
  | done outcome =>
    have hround : (crew c).resumeRound w (reading (w.inner.resume c.story reply) a).state =
        ⟨(reading (w.inner.resume c.story reply) a).state, [], .done ()⟩ := by
      have hroster : (crew c).roster (reading (w.inner.resume c.story reply) a).state =
          crewOf status hears := h
      rw [Crew.resumeRound, Act.bind_get, hroster, hw]
      rfl
    have hpump : pump c (reading (w.inner.resume c.story reply) a).state =
        ⟨(reading (w.inner.resume c.story reply) a).state, [], .done ()⟩ := pump_nil hq
    simp only [hround, hpump]
    exact ⟨_, rfl⟩

/-- What comes of starting the crew: the catalog has to be waited for, or the stories are started. -/
inductive Starts (a : App) : Made App (Progress Starting Nat) → Prop
  | waiting {w : Catalog.Preloading} (notices : List Notice) :
      (Catalog.preload a.storybook.catalog).value = .waiting w →
      Starts a ⟨a, notices, .waiting ⟨0, 0, w⟩⟩
  | done {status : Roster.Status} (failed : Nat) (notices : List Notice) : status ≠ .pending →
      Starts a ⟨{ a with roster := crewOf status true }, notices, .done failed⟩

theorem starts_startAll (h : a.roster = crewOf status false) : Starts a (startAll c a) := by
  obtain ⟨stage, navigation, ⟨catalog, graphs, places, mounted⟩, roster, taken, booted, booting⟩ := a
  subst h
  cases status with
  | pending =>
    match catalog with
    | .fixed _ => exact .done 0 [] (by simp)
    | .packs _ (some _) => exact .done 0 [] (by simp)
    | .packs _ none => exact .waiting [] rfl
  | active => exact .done 0 [] (by simp)
  | failed text => exact .done 0 [] (by simp)
  | disabled => exact .done 0 [] (by simp)

theorem resumeStartAll_eq (h : a.roster = crewOf status false) {w : Starting} (hw : w.position = 0)
    (reply : w.request.Reply) :
    ∃ status failed notices, status ≠ Roster.Status.pending ∧ resumeStartAll c w reply a =
      ⟨{ a with
          storybook := { a.storybook with catalog := (w.inner.resume reply a.storybook.catalog).state }
          roster := crewOf status true }, notices, .done failed⟩ := by
  obtain ⟨position, failed, inner⟩ := w
  obtain ⟨stage, navigation, storybook, roster, taken, booted, booting⟩ := a
  subst h hw
  cases reply with
  | error cause => exact ⟨.failed (startFault cause).message, failed + 1, _, by simp, rfl⟩
  | ok doc => exact ⟨.active, failed, _, by simp, rfl⟩

end App
end Gamebook
