import Gamebook.Proofs.App.Abreast
import Gamebook.Proofs.Session.Twice

/-! Going to one target after another, and following them all before anything is delivered. The two sessions are
led side by side; what their players share after each target is said by `App.Abreast`. -/
namespace Gamebook.Session

open App

variable {c : Settings} {s e b : Session}

theorem returned_follow (hopen : s.closed = []) (raw : String) :
    ∃ t, Returned c s [.follow raw] [.screen (granted? c s.app raw)] t ∧
      s.Moved (followed c s.outside.rule raw s.app) t :=
  returned_of_concludes (concludes_follow raw s.app) (by decide) hopen

/-- From where two players are abreast, the one goes to all targets, and the other one follows them all and
delivers then. -/
theorem batch_of_abreast {env : (r : Request) → r.Reply} (raws : List String)
    (h : Abreast c env e.app b.app) (ho : Owes c env e.app b.app) (he : e.outside.rule = env)
    (hb : b.outside.rule = env) (heopen : e.closed = []) (hbopen : b.closed = []) :
    ∃ given t u, Returned c e (raws.map .go) given t ∧
      Returned c b (raws.map .follow ++ [.pump]) (given ++ [.nothing]) u ∧ Alike u.app t.app ∧
      Rested t.app ∧ Rested u.app ∧ t.outside.uncounted = e.outside.uncounted ∧
      u.outside.uncounted = b.outside.uncounted := by
  induction raws generalizing e b with
  | nil =>
    obtain ⟨d, hconcludes, halike, hrested⟩ := h.pump ho
    obtain ⟨u, hpump, hu⟩ := returned_of_concludes (hb ▸ hconcludes) (by decide) hbopen
    exact ⟨[], e, u, .nothing e, hpump, hu.app ▸ halike, h.rested, hu.app ▸ hrested, rfl, hu.outside⟩
  | cons raw raws ih =>
    obtain ⟨e', hgo, he'⟩ := returned_go (c := c) h.rested heopen raw
    obtain ⟨b', hfollow, hb'⟩ := returned_follow (c := c) hbopen raw
    obtain ⟨habreast, howes⟩ := h.follow ho raw
    rw [he] at he'
    rw [hb] at hb'
    rw [h.granted?_eq raw] at hfollow
    obtain ⟨given, t, u, ht, hu, halike, hrested, hrested', hout, hout'⟩ :=
      ih (e := e') (b := b') (he'.app ▸ hb'.app ▸ habreast) (he'.app ▸ hb'.app ▸ howes) (he'.rule_eq.trans he)
        (hb'.rule_eq.trans hb) (by rw [he'.rest]; exact heopen) (by rw [hb'.rest]; exact hbopen)
    exact ⟨_, t, u, hgo.append ht, hfollow.append hu, halike, hrested, hrested', hout.trans he'.outside,
      hout'.trans hb'.outside⟩

/-- A player at rest that follows any targets, more than the channel keeps among them, and delivers once, answers
as one that delivers each time, and comes to look like it: every surface with its regions and its panel is the same
but for scrolling, as are the lock of the page and the story that is mounted. -/
theorem batch_shows_what_eager_shows (h : Rested s.app) (hopen : s.closed = []) (raws : List String) :
    ∃ given t u, Returned c s (raws.map .go) given t ∧
      Returned c s (raws.map .follow ++ [.pump]) (given ++ [.nothing]) u ∧ Alike u.app t.app ∧
      Rested t.app ∧ Rested u.app ∧ u.outside.uncounted = t.outside.uncounted := by
  obtain ⟨given, t, u, ht, hu, halike, hrested, hrested', hout, hout'⟩ :=
    batch_of_abreast (c := c) raws (.refl h) (.nothing rfl) rfl rfl hopen hopen
  exact ⟨given, t, u, ht, hu, halike, hrested, hrested', hout'.trans hout.symm⟩

/-- To the rooms and back, forty times. -/
def roundTrips : List String := (List.replicate 40 ["story_a", "yard"]).flatten

theorem batch_shows_what_eager_shows_on_round_trips :
    Rested yardSession.app ∧ Transitions.capacity < roundTrips.length ∧
    ∃ given t u, Returned {} yardSession (roundTrips.map .go) given t ∧
      Returned {} yardSession (roundTrips.map .follow ++ [.pump]) (given ++ [.nothing]) u ∧ Alike u.app t.app ∧
      Rested t.app ∧ Rested u.app ∧ u.outside.uncounted = t.outside.uncounted := by
  have hrested : Rested yardSession.app := by
    obtain ⟨log, hrun⟩ := run_inTheYard
    rw [app_yardSession]
    exact rested_of_quiet hrun quiet_inTheYard booted_inTheYard
  exact ⟨hrested, by decide +kernel, batch_shows_what_eager_shows hrested closed_yardSession roundTrips⟩

end Gamebook.Session
