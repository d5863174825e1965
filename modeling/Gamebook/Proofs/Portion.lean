import Gamebook.Proofs.Concluding
import Gamebook.Proofs.Trace

/-! Calls that are some of the calls of a larger protocol. If they are begun and resumed there as by themselves,
then whatever happens with no other call between them happens by themselves too: `Portion.exists_trace`. -/
namespace Gamebook.Protocol

variable {σ κ ω α κ' ω' α' : Type} {P : Protocol σ κ ω α} {Q : Protocol σ κ' ω' α'}

variable (P Q) in
/-- Some calls of the larger protocol `Q`, which are all the calls of `P`. -/
structure Portion where
  call? : κ → Option κ'
  wait : ω → ω'
  answer : α → α'
  begin : ∀ {call call'}, call? call = some call' →
    Q.begin call' = do return (← P.begin call).map wait answer
  request : ∀ w, P.request w = Q.request (wait w)
  resume : ∀ w (reply : (P.request w).Reply),
    Q.resume (wait w) (request w ▸ reply) = do return (← P.resume w reply).map wait answer
  ready : ∀ {s w}, Q.ready s (wait w) = true → P.ready s w = true

namespace Portion

variable (m : Portion P Q)

/-- A call with the call that it is of the larger protocol. -/
structure Course (course : P.Course) (course' : Q.Course) : Prop where
  call : m.call? course.call = some course'.call
  standing : course'.standing = course.standing.map m.wait m.answer

structure Flight (f : P.Flight) (f' : Q.Flight) : Prop where
  state : f'.state = f.state
  courses : List.Forall₂ m.Course f.courses f'.courses

def replied? {σ κ ω α : Type} {P : Protocol σ κ ω α} (e : P.Event) : Option Progress.Replied :=
  e.exchange?.map fun x => ⟨P.request x.asked, x.reply⟩

structure Event (e : P.Event) (e' : Q.Event) : Prop where
  number : e'.number = e.number
  replied : replied? e' = replied? e
  before : m.Flight e.before e'.before
  after : m.Flight e.after e'.after

variable {m} {f : P.Flight} {f' : Q.Flight} {answers : (r : Request) → r.Reply → Prop}

theorem begun (h : m.Flight f f') {call : κ} {call' : κ'} (hcall : m.call? call = some call') :
    m.Event (Protocol.Event.begun P f call) (Protocol.Event.begun Q f' call') := by
  have hmade : Q.begin call' f'.state =
      ⟨(P.begin call f.state).state, (P.begin call f.state).notices ++ [],
        (P.begin call f.state).value.map m.wait m.answer⟩ := by
    rw [h.state, m.begin hcall]
    rfl
  have hcourse : m.Course (Protocol.Course.ofCall P call f.state) (Protocol.Course.ofCall Q call' f'.state) :=
    ⟨hcall, congrArg Made.value hmade⟩
  exact
    { number := h.courses.length_eq.symm
      replied := rfl
      before := h
      after := ⟨congrArg Made.state hmade, List.rel_append h.courses (.cons hcourse .nil)⟩ }

theorem replied_cast {r r' : Request} (h : r = r') (reply : r.Reply) :
    (⟨r', h ▸ reply⟩ : Progress.Replied) = ⟨r, reply⟩ := by
  subst h
  rfl

theorem resumed {s : σ} {before after : List P.Course} {before' after' : List Q.Course} {course : P.Course}
    {course' : Q.Course} (hbefore : List.Forall₂ m.Course before before') (hcourse : m.Course course course')
    (hafter : List.Forall₂ m.Course after after') (w : ω) (reply : (P.request w).Reply) :
    m.Event (Protocol.Event.resumed s before course after w reply)
      (Protocol.Event.resumed s before' course' after' (m.wait w) (m.request w ▸ reply)) := by
  have hmade : Q.resume (m.wait w) (m.request w ▸ reply) s =
      ⟨(P.resume w reply s).state, (P.resume w reply s).notices ++ [],
        (P.resume w reply s).value.map m.wait m.answer⟩ := by
    rw [m.resume w reply]
    rfl
  have hnext : m.Course (course.next w reply s) (course'.next (m.wait w) (m.request w ▸ reply) s) :=
    ⟨hcourse.call, congrArg Made.value hmade⟩
  exact
    { number := hbefore.length_eq.symm
      replied := congrArg some (replied_cast (m.request w) reply)
      before := ⟨rfl, List.rel_append hbefore (.cons hcourse hafter)⟩
      after := ⟨congrArg Made.state hmade, List.rel_append hbefore (.cons hnext hafter)⟩ }

theorem exists_cast {r r' : Request} (h : r = r') (reply' : r'.Reply) (hanswers : answers r' reply') :
    ∃ reply : r.Reply, reply' = h ▸ reply ∧ answers r reply := by
  subst h
  exact ⟨reply', rfl, hanswers⟩

theorem exists_split {α β : Type} {R : α → β → Prop} {xs : List α} {before' after' : List β} {y : β}
    (h : List.Forall₂ R xs (before' ++ y :: after')) : ∃ before x after, xs = before ++ x :: after ∧
      List.Forall₂ R before before' ∧ R x y ∧ List.Forall₂ R after after' := by
  obtain ⟨x, after, hx, hafter, hdrop⟩ := List.forall₂_cons_right_iff.1 (List.forall₂_drop_append _ _ _ h)
  refine ⟨xs.take before'.length, x, after, ?_, List.forall₂_take_append _ _ _ h, hx, hafter⟩
  rw [← hdrop, List.take_append_drop]

/-- Whatever happens with such calls alone happens in a flight of them. -/
theorem exists_happens {e' : Q.Event} (h : m.Flight f e'.before)
    (he' : e'.Happens (fun call' => ∃ call, m.call? call = some call') answers) :
    ∃ e, e.before = f ∧ e.Happens (fun call => (m.call? call).isSome = true) answers ∧ m.Event e e' := by
  cases he' with
  | begin f' hcall =>
    obtain ⟨call, hcall⟩ := hcall
    exact ⟨_, rfl, .begin f (by rw [hcall]; rfl), begun h hcall⟩
  | @resume s before' after' course' w' reply' hw' hready hanswers =>
    obtain ⟨t, courses⟩ := f
    obtain rfl : s = t := h.state
    obtain ⟨before, course, after, rfl, hbefore, hcourse, hafter⟩ := exists_split h.courses
    -- The call that goes on stands where its image does, so that it asked the same.
    obtain ⟨w, hw, rfl⟩ : ∃ w, course.standing = .waiting w ∧ w' = m.wait w := by
      have hstanding := hw'.symm.trans hcourse.standing
      cases hw : course.standing with
      | done answer =>
        rw [hw] at hstanding
        cases hstanding
      | waiting w =>
        rw [hw] at hstanding
        exact ⟨w, rfl, Progress.waiting.inj hstanding⟩
    obtain ⟨reply, rfl, hreply⟩ := exists_cast (m.request w) reply' hanswers
    exact ⟨_, rfl, .resume reply hw (m.ready hready) hreply, resumed hbefore hcourse hafter w reply⟩

theorem exists_trace {start : P.Flight} {start' : Q.Flight} (hstart : m.Flight start start') {es' : List Q.Event}
    (ht : Q.Trace (fun call' => ∃ call, m.call? call = some call') answers start' es' f') :
    ∃ es f, P.Trace (fun call => (m.call? call).isSome = true) answers start es f ∧
      List.Forall₂ m.Event es es' ∧ m.Flight f f' := by
  induction ht with
  | start => exact ⟨[], start, .start, .nil, hstart⟩
  | @step es' e' _ he' ih =>
    obtain ⟨es, f, ht, hes, hf⟩ := ih
    obtain ⟨e, rfl, he, hevent⟩ := exists_happens hf he'
    exact ⟨e :: es, e.after, ht.step he, .cons hevent hes, hevent.after⟩

end Portion
end Gamebook.Protocol
