import Gamebook.Act

/-! Calls from where they stand to their answer. An outside that answers by a rule leaves a call one way to
go: each request is answered in turn, until the call has its answer. -/
namespace Gamebook

/-- A request that changes nothing outside. -/
def Request.Reads : Request → Prop
  | document _ => True
  | place _ => True
  | _ => False

abbrev docsOf (env : (r : Request) → r.Reply) (path : String) : Except SourceFault Json.Value := env (.document path)

namespace Progress

variable {σ ω α : Type}

/-- By way of so many requests at most, all of which only read, a call comes from one state to another and has
its answer there. -/
inductive Concludes (request : ω → Request) (resume : (w : ω) → (request w).Reply → Act σ (Progress ω α))
    (env : (r : Request) → r.Reply) : Nat → Progress ω α → σ → σ → α → Prop
  | done (n : Nat) (answer : α) (s : σ) : Concludes request resume env n (.done answer) s s answer
  | waiting {n : Nat} {w : ω} {s t : σ} {answer : α} : (request w).Reads →
      Concludes request resume env n (resume w (env (request w)) s).value
        (resume w (env (request w)) s).state t answer →
      Concludes request resume env (n + 1) (.waiting w) s t answer

variable {request : ω → Request} {resume : (w : ω) → (request w).Reply → Act σ (Progress ω α)}
variable {env : (r : Request) → r.Reply} {n m : Nat} {p : Progress ω α} {s t : σ} {answer : α}

theorem Concludes.mono (h : Concludes request resume env n p s t answer) (hn : n ≤ m) :
    Concludes request resume env m p s t answer := by
  induction h generalizing m with
  | done => exact .done m _ _
  | waiting hreads _ ih =>
    obtain ⟨m, rfl⟩ := Nat.exists_eq_add_of_lt (Nat.lt_of_succ_le hn)
    exact .waiting hreads (ih (by omega))

abbrev Replied := (r : Request) × r.Reply

/-- By way of these requests, so replied to, a call comes from one state to another and has its answer there. -/
inductive Completes (request : ω → Request) (resume : (w : ω) → (request w).Reply → Act σ (Progress ω α)) :
    Progress ω α → σ → List Replied → σ → α → Prop
  | done (answer : α) (s : σ) : Completes request resume (.done answer) s [] s answer
  | waiting {w : ω} {s t : σ} {asked : List Replied} {answer : α} (reply : (request w).Reply) :
      Completes request resume (resume w reply s).value (resume w reply s).state asked t answer →
      Completes request resume (.waiting w) s (⟨request w, reply⟩ :: asked) t answer

/-- Whatever is replied, a call has its answer in the end, and then this holds of what it asked, of the state and
of the answer. -/
inductive Ensures (request : ω → Request) (resume : (w : ω) → (request w).Reply → Act σ (Progress ω α)) :
    (List Replied → σ → α → Prop) → Progress ω α → σ → Prop
  | done {post : List Replied → σ → α → Prop} {answer : α} {s : σ} : post [] s answer →
      Ensures request resume post (.done answer) s
  | waiting {post : List Replied → σ → α → Prop} {w : ω} {s : σ} :
      (∀ reply : (request w).Reply, Ensures request resume (fun asked => post (⟨request w, reply⟩ :: asked))
        (resume w reply s).value (resume w reply s).state) →
      Ensures request resume post (.waiting w) s

variable {post post' : List Replied → σ → α → Prop} {q : Progress ω α}

theorem Ensures.mono (h : Ensures request resume post p s) (hpost : ∀ asked t x, post asked t x → post' asked t x) :
    Ensures request resume post' p s := by
  induction h generalizing post' with
  | done h => exact .done (hpost _ _ _ h)
  | waiting _ ih => exact .waiting fun reply => ih reply fun asked t x => hpost _ t x

/-- Two calls that ask the same and do the same with every reply, up to how they name it. -/
theorem Ensures.alike {R : Progress ω α → Progress ω α → Prop} (hdone : ∀ {x q}, R (.done x) q → ∃ y, q = .done y)
    (hwaiting : ∀ {w q}, R (.waiting w) q → ∃ w', q = .waiting w' ∧ ∀ (reply' : (request w').Reply) (s : σ),
      ∃ reply : (request w).Reply, (⟨request w', reply'⟩ : Replied) = ⟨request w, reply⟩ ∧
        (resume w' reply' s).state = (resume w reply s).state ∧
        R (resume w reply s).value (resume w' reply' s).value)
    (h : Ensures request resume post p s) (hR : R p q) :
    Ensures request resume (fun asked t y => ∃ x, R (.done x) (.done y) ∧ post asked t x) q s := by
  induction h generalizing q with
  | done h =>
    obtain ⟨y, rfl⟩ := hdone hR
    exact .done ⟨_, hR, h⟩
  | waiting _ ih =>
    obtain ⟨w', rfl, hstep⟩ := hwaiting hR
    refine .waiting fun reply' => ?_
    obtain ⟨reply, hreplied, hstate, hvalue⟩ := hstep reply' _
    rw [hstate, hreplied]
    exact ih reply hvalue

end Progress
end Gamebook
