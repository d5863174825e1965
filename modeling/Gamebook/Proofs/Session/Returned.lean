import Gamebook.Proofs.App.Undisturbed
import Gamebook.Proofs.Session.Calls

/-! Sessions in which one call is made after another, and each returns. Nothing outside is changed by calls that
only read, but for the count of what was fetched: so one rule answers all of them, and each comes to what it comes
to for a player on its own, `returned_of_concludes`. -/
namespace Gamebook

namespace Outside

/-- An outside whose fetches were not counted. -/
def uncounted (o : Outside) : Outside :=
  match o.source with
  | .memory documents _ => { o with source := .memory documents [] }
  | .files _ => o

def rule (o : Outside) (r : Request) : r.Reply := (o.uncounted.answer r).1

variable {o : Outside} {r : Request}

theorem answer_eq_rule (o : Outside) (r : Request) : (o.answer r).1 = o.rule r := by
  obtain ⟨disk, source, store⟩ := o
  cases source with
  | files base => rfl
  | memory documents fetches =>
    cases r with
    | document path => rfl
    | place story => rfl
    | turn => rfl
    | savePlace story node =>
      cases store with
      | memory places load save => cases save <;> rfl
      | files base =>
        simp only [rule, uncounted, answer, savePlace]
        cases disk.makePath base with
        | mk result disk =>
          cases result with
          | error cause => rfl
          | ok =>
            dsimp only
            cases disk.writeText (markerPath base story) (Marker.text ⟨story, node⟩) <;> rfl

theorem rule_congr {o' : Outside} (h : o'.uncounted = o.uncounted) : o'.rule = o.rule := by
  funext r
  rw [rule, h, rule]

theorem uncounted_answer (h : r.Reads) : (o.answer r).2.uncounted = o.uncounted := by
  obtain ⟨disk, source, store⟩ := o
  cases r with
  | document path => cases source <;> rfl
  | place story => rfl
  | turn => rfl
  | savePlace story node => exact h.elim

end Outside

namespace Session

open App

variable {c : Settings} {s t u : Session}

theorem isHeld_of_reads (hopen : s.closed = []) {r : Request} (h : r.Reads) : s.isHeld r = false := by
  unfold isHeld
  cases r with
  | document path => simp [gate?, hopen]
  | place story => simp [gate?, hopen]
  | savePlace story node => exact h.elim
  | turn => exact h.elim

/-- A call goes on in a session as it does on its own. -/
theorem advance_of_concludes {env : (r : Request) → r.Reply} {n m : Nat} {p : Progress Waiting Gamebook.Answer}
    {a b : App} {answer : Gamebook.Answer} (h : App.Concludes c env n p a b answer) (hn : n ≤ m) (ha : s.app = a)
    (henv : s.outside.rule = env) (hopen : s.closed = []) :
    ∃ o notices,
      advance c m (p.map .player .player) s = ⟨{ s with app := b, outside := o }, notices, .done (.player answer)⟩ ∧
      o.uncounted = s.outside.uncounted := by
  induction h generalizing m s with
  | done n answer b =>
    subst ha
    exact ⟨s.outside, [], advance_done m (.player answer) s, rfl⟩
  | @waiting n w a b answer hreads _ ih =>
    subst ha henv
    cases m with
    | zero => exact absurd hn (Nat.not_succ_le_zero n)
    | succ m =>
      have hreply : replied c w s = ⟨{ s with
            app := (App.resume c w (s.outside.rule w.request) s.app).state
            outside := (s.outside.answer w.request).2 },
          (App.resume c w (s.outside.rule w.request) s.app).notices,
          (App.resume c w (s.outside.rule w.request) s.app).value⟩ := by
        rw [replied, ← Outside.answer_eq_rule]
      have hsame := Outside.uncounted_answer (o := s.outside) hreads
      obtain ⟨o, notices, hadvance, ho⟩ := ih (s := (replied c w s).state) (m := m) (Nat.le_of_succ_le_succ hn)
        (by rw [hreply]) (by rw [hreply]; exact Outside.rule_congr hsame) (by rw [hreply]; exact hopen)
      refine ⟨o, (replied c w s).notices ++ notices, ?_, ?_⟩
      · rw [Progress.map, advance_waiting (isHeld_of_reads hopen hreads)]
        have hvalue : (replied c w s).value = (App.resume c w (s.outside.rule w.request) s.app).value := by rw [hreply]
        rw [hvalue, hadvance, hreply]
      · rw [ho, hreply, hsame]

theorem call_of_concludes {n : Nat} {call : Gamebook.Call} {b : App} {answer : Gamebook.Answer}
    (h : App.Concludes c s.outside.rule n (App.begin c call s.app).value (App.begin c call s.app).state b answer)
    (hn : n ≤ 16) (hopen : s.closed = []) :
    ∃ o, (∀ number, ∃ notices, Session.call c number (.player call) s =
        ⟨{ s with app := b, outside := o }, notices, .done (.player answer)⟩) ∧ o.uncounted = s.outside.uncounted := by
  obtain ⟨o, notices, hadvance, ho⟩ := advance_of_concludes (m := s.patience)
    (s := { s with app := (App.begin c call s.app).state }) h (Nat.le_trans hn (le_patience s)) rfl rfl hopen
  exact ⟨o, fun number => call_of_advance call number ⟨notices, hadvance⟩, ho⟩

variable (c) in
/-- Calls are made one after another, under whatever numbers, and each returns with its answer. -/
inductive Returned : Session → List Gamebook.Call → List Gamebook.Answer → Session → Prop
  | nothing (s : Session) : Returned s [] [] s
  | call {s t u : Session} {call : Gamebook.Call} {calls : List Gamebook.Call} {answer : Gamebook.Answer}
      {answers : List Gamebook.Answer} :
      (∀ number, ∃ notices, Session.call c number (.player call) s = ⟨t, notices, .done (.player answer)⟩) →
      Returned t calls answers u → Returned s (call :: calls) (answer :: answers) u

theorem Returned.append {calls calls' : List Gamebook.Call} {answers answers' : List Gamebook.Answer}
    (h : Returned c s calls answers t) (h' : Returned c t calls' answers' u) :
    Returned c s (calls ++ calls') (answers ++ answers') u := by
  induction h with
  | nothing => exact h'
  | call hcall _ ih => exact .call hcall (ih h')

/-- A session with another player in it, and with what is outside of it as it was but for the count of fetches. -/
structure Moved (s : Session) (b : App) (t : Session) : Prop where
  app : t.app = b
  outside : t.outside.uncounted = s.outside.uncounted
  rest : t = { s with app := t.app, outside := t.outside }

theorem returned_of_concludes {n : Nat} {call : Gamebook.Call} {b : App} {answer : Gamebook.Answer}
    (h : App.Concludes c s.outside.rule n (App.begin c call s.app).value (App.begin c call s.app).state b answer)
    (hn : n ≤ 16) (hopen : s.closed = []) : ∃ t, Returned c s [call] [answer] t ∧ s.Moved b t := by
  obtain ⟨o, hcall, ho⟩ := call_of_concludes h hn hopen
  exact ⟨_, .call hcall (.nothing _), rfl, ho, rfl⟩

section Moved

variable {b : App}

theorem Moved.rule_eq (h : s.Moved b t) : t.outside.rule = s.outside.rule := Outside.rule_congr h.outside

theorem returned_go (h : Rested s.app) (hopen : s.closed = []) (raw : String) :
    ∃ t, Returned c s [.go raw] [.screen (granted? c s.app raw)] t ∧ s.Moved (gone c s.outside.rule raw s.app) t :=
  returned_of_concludes (concludes_go raw h) (by decide) hopen

end Moved

end Session
end Gamebook
