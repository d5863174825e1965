import Gamebook.Proofs.Session.Refinement
import Gamebook.Proofs.Session.Returned

/-! Going somewhere twice. The second navigation finds the screen shown, its style sheet attached, its regions
in place and its story where the reader went on, and so it opens a generation and changes nothing else:
`going_twice_is_going_once`. -/
namespace Gamebook

/-- A screen that was noted is where its alias leads from then on. -/
theorem Screen.Memory.resolve_note {c : NavigationSettings} {m : Memory} {route : Route} {registry : Registry}
    {screen : ScreenId} (h : m.resolve route registry = .ok screen) :
    (m.note c screen).resolve route registry = .ok screen := by
  obtain ⟨hlook, hin⟩ := (resolve_eq_ok_iff ..).1 h
  refine (resolve_eq_ok_iff ..).2 ⟨?_, hin⟩
  cases route with
  | screen id => exact hlook
  | lastLibrary =>
    have hlook : m.lastLibrary = some screen := hlook
    simp only [lookUp?, note, hlook]
    split <;> rfl
  | lastStory =>
    have hlook : m.lastStory = some screen := hlook
    simp only [lookUp?, note, hlook]
    split <;> rfl

namespace App

open Storybook

/-- A player as it would be without generations: they are counted, and named by the channel. -/
def timeless (a : App) : App :=
  { a with
    stage := { a.stage with generation := 0 }
    navigation := { a.navigation with transitions := {} }
    taken := 0 }

variable {c : Settings} {env : (r : Request) → r.Reply} {a : App} {raw : String} {screen : ScreenId}

section Granted

variable (hsome : granted? c a raw = some screen)

include hsome

theorem granted?_gone : granted? c (gone c env raw a) raw = some screen := by
  obtain ⟨registry, hr, hm⟩ := Option.bind_eq_some_iff.1 hsome
  have hm : a.navigation.memory.resolve (.ofText c.navigation.aliases raw) registry = .ok screen := by
    cases hresolve : a.navigation.memory.resolve (.ofText c.navigation.aliases raw) registry <;> rw [hresolve] at hm <;>
      cases hm
    rfl
  rw [granted?, navigation_gone hsome, followed_eq hsome]
  show Option.bind a.navigation.registry _ = _
  rw [hr, Option.bind_some]
  show Except.toOption ((a.navigation.memory.note c.navigation screen).resolve _ registry) = _
  rw [Screen.Memory.resolve_note hm]
  rfl

variable (env) in
theorem at_gone (h : a.stage.Sound) :
    Navigation.At c.navigation (docsOf env) screen ⟨(gone c env raw a).stage, (gone c env raw a).navigation⟩ :=
  (at_followed env hsome).of_bare (attended_gone env hsome h).bare (navigation_gone hsome)

/-- Once more, a generation is opened and announced, and that is all. -/
theorem gone_gone (h : a.stage.Sound) : gone c env raw (gone c env raw a) =
    let b := gone c env raw a
    let transitions := b.navigation.transitions.send ⟨screen, b.stage.generation + 1⟩
    { b with
      stage := { b.stage with generation := b.stage.generation + 1 }
      navigation := { b.navigation with transitions }
      taken := transitions.tail } := by
  have hagain : granted? c (gone c env raw a) raw = some screen := granted?_gone hsome
  have hattended := attended_gone env hsome h
  have harrived := (at_gone env hsome h).arrived_eq hattended.sound
  have hfollowed : followed c env raw (gone c env raw a) = _ := followed_eq hagain
  rw [harrived] at hfollowed
  have hvisited := (hattended.again (u := (followed c env raw (gone c env raw a)).stories) (by rw [hfollowed]; rfl)
    (by rw [hfollowed]; rfl)).visited_eq (current_followed hagain)
  rw [gone_eq hagain, toldOf, hvisited, hfollowed]
  rfl

end Granted

theorem timeless_gone_gone (h : a.stage.Sound) (raw : String) :
    (gone c env raw (gone c env raw a)).timeless = (gone c env raw a).timeless := by
  cases hgranted : granted? c a raw with
  | none =>
    rw [gone_of_none hgranted, gone_of_none hgranted]
  | some screen =>
    rw [gone_gone hgranted h]
    rfl

end App

namespace Session

open App

def timeless (s : Session) : Session := { s with app := s.app.timeless, outside := s.outside.uncounted }

variable {c : Settings} {s t : Session} {b : App} {raw : String}

theorem Moved.timeless_eq (h : s.Moved b t) :
    t.timeless = { s with app := b.timeless, outside := s.outside.uncounted } := by
  rw [timeless, h.app, h.outside, h.rest]

/-- A player is sent somewhere twice from where it got to rest, and answers twice the same. If it is let in, the
screen is shown alone; and what it leaves is what it leaves when it is sent there once, but for the generations, and
for how often the outside was asked. -/
theorem going_twice_is_going_once {first : Catalog} {answers : (r : Request) → r.Reply → Prop}
    {log : List (App × App)} {f : (protocol c).Flight}
    (hrun : (protocol c).Run Gamebook.Call.Plays answers ⟨ofCatalog first, []⟩ log f) (hquiet : f.Quiet)
    (hbooted : f.state.booted = true) (hs : s.app = f.state) (hopen : s.closed = []) (raw : String) :
    let goal := granted? c s.app raw
    ∃ t u, Returned c s [.go raw] [.screen goal] t ∧ Returned c s [.go raw, .go raw] [.screen goal, .screen goal] u ∧
      u.timeless = t.timeless ∧ (∀ screen, goal = some screen → t.app.stage.Alone screen) ∧
      Rested t.app ∧ Rested u.app := by
  have hrested : Rested s.app := hs ▸ rested_of_quiet hrun hquiet hbooted
  obtain ⟨t, honce, ht⟩ := returned_go (c := c) hrested hopen raw
  have hrested' : Rested t.app := ht.app ▸ rested_gone hrested
  obtain ⟨u, hagain, hu⟩ := returned_go (c := c) hrested' (by rw [ht.rest]; exact hopen) raw
  have hgoal : granted? c t.app raw = granted? c s.app raw := by
    rw [ht.app]
    cases hgranted : granted? c s.app raw with
    | none =>
      rw [gone_of_none hgranted]
      exact hgranted
    | some screen => exact granted?_gone hgranted
  rw [hgoal] at hagain
  refine ⟨t, u, honce, honce.append hagain, ?_, fun screen hscreen => ?_, hrested', hu.app ▸ rested_gone hrested'⟩
  · rw [hu.timeless_eq, ht.timeless_eq, ht.rule_eq, ht.app, timeless_gone_gone hrested.sound, ht.outside, ht.rest]
  · rw [ht.app]
    exact (at_gone s.outside.rule hscreen hrested.sound).alone

/-- The reader of the rooms has just come to the yard. -/
def inTheYard : (protocol {}).Flight :=
  Protocol.Flight.play (P := protocol {}) (sourceOf rooms.documents) ⟨ofCatalog roomCatalog, []⟩
    [.begin (.boot none), .resume 0]

theorem run_inTheYard : ∃ log,
    (protocol {}).Run Gamebook.Call.Plays (fun _ _ => True) ⟨ofCatalog roomCatalog, []⟩ log inTheYard :=
  Protocol.exists_run_play (fun _ => trivial) (by simp [Gamebook.Call.Plays]) .start

theorem quiet_inTheYard : inTheYard.Quiet := by
  unfold Protocol.Flight.Quiet
  decide +kernel

theorem booted_inTheYard : inTheYard.state.booted = true := by decide +kernel

def yardSession : Session := { app := inTheYard.state, outside := rooms }

theorem app_yardSession : yardSession.app = inTheYard.state := by rw [yardSession]

theorem closed_yardSession : yardSession.closed = [] := by rw [yardSession]

theorem going_twice_is_going_once_to_the_rooms :
    (∃ log, (protocol {}).Run Gamebook.Call.Plays (fun _ _ => True) ⟨ofCatalog roomCatalog, []⟩ log inTheYard) ∧
    inTheYard.Quiet ∧ inTheYard.state.booted = true ∧ granted? {} yardSession.app "story_a" = some ⟨"story_a"⟩ ∧
    ∃ t u, Returned {} yardSession [.go "story_a"] [.screen (some ⟨"story_a"⟩)] t ∧
      Returned {} yardSession [.go "story_a", .go "story_a"]
        [.screen (some ⟨"story_a"⟩), .screen (some ⟨"story_a"⟩)] u ∧
      u.timeless = t.timeless ∧ t.app.stage.Alone ⟨"story_a"⟩ ∧ Rested t.app ∧ Rested u.app := by
  have hgoal : granted? {} yardSession.app "story_a" = some ⟨"story_a"⟩ := by decide +kernel
  obtain ⟨log, hrun⟩ := run_inTheYard
  obtain ⟨t, u, honce, htwice, hsame, halone, hrested, hrested'⟩ :=
    going_twice_is_going_once hrun quiet_inTheYard booted_inTheYard app_yardSession closed_yardSession "story_a"
  rw [hgoal] at honce htwice
  exact ⟨⟨log, hrun⟩, quiet_inTheYard, booted_inTheYard, hgoal, t, u, honce, htwice, hsame, halone _ hgoal, hrested,
    hrested'⟩

end Session
end Gamebook
