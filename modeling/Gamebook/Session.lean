import Gamebook.App.Call
import Gamebook.Outside.Basic

/-! Sessions: a player, its outside, and the calls under way. A call goes on for as long as its requests
are answered. A request is held back while its gate is closed, and a turn to boot while another boot
is in flight. -/
namespace Gamebook

/-- A call to a session: one to the player, a bare fetch, or a load of the registry on its own. -/
inductive Session.Call
  | player (call : Gamebook.Call)
  | fetch (path : String)
  | load

inductive Session.Pending
  | player (w : Waiting)
  | fetching (path : String)
  | loading (path : String)

inductive Session.Answer
  | player (answer : Gamebook.Answer)
  | document (result : Except SourceFault Json.Value)
  | registry (result : Except LoadFault Screen.Registry)

structure Session where
  app : App
  outside : Outside
  /-- The registry that was loaded on its own. -/
  registry : Option Screen.Registry := none
  closed : List String := []
  /-- The calls that wait, in the order in which they were begun. -/
  waiting : List (Nat × Session.Pending) := []

namespace Session

abbrev Pending.request : Pending → Request
  | player w => w.request
  | fetching path => .document path
  | loading path => .document path

/-- The gate in front of a request. -/
def gate? : Request → Option String
  | .document path => some path
  | .place story => some ("load:" ++ story.text)
  | .savePlace story _ => some ("save:" ++ story.text)
  | .turn => none

def isHeld (s : Session) (r : Request) : Bool :=
  match gate? r with
  | some gate => s.closed.contains gate
  | none => s.app.booting

def playing {α : Type} (x : Act App α) : Act Session α :=
  .within (·.app) (fun s app => { s with app }) x

def ask (r : Request) : Act Session r.Reply := fun s =>
  let (reply, outside) := s.outside.answer r
  ⟨{ s with outside }, [], reply⟩

def begin (c : Settings) : Call → Act Session (Progress Pending Answer)
  | .player call => do return (← playing (App.begin c call)).map .player .player
  | .fetch path => return .waiting (.fetching path)
  | .load => do
    match (← Act.get).registry with
    | some registry => return .done (.registry (.ok registry))
    | none => return .waiting (.loading c.content.registryPath)

def resume (c : Settings) : (p : Pending) → p.request.Reply → Act Session (Progress Pending Answer)
  | .player w, reply => do return (← playing (App.resume c w reply)).map .player .player
  | .fetching _, reply => return .done (.document reply)
  | .loading path, reply => do
    let result := Screen.Registry.ofReply path reply
    match result with
    | .ok registry => Act.modify fun s => { s with registry := some registry }
    | .error _ => pure ()
    return .done (.registry result)

/-- Lets a call go on until it has its answer or is held back, through at most so many requests. -/
def advance (c : Settings) : Nat → Progress Pending Answer → Act Session (Progress Pending Answer)
  | 0, p => pure p
  | _, .done a => pure (.done a)
  | n + 1, .waiting p => do
    if (← Act.get).isHeld p.request then return .waiting p
    else
      let reply ← ask p.request
      advance c n (← resume c p reply)

/-- More requests than one call makes without being held back: a few of its own, and three for each
transition that is to be delivered. -/
def patience (s : Session) : Nat :=
  let t := s.app.navigation.transitions
  3 * (t.unread s.app.taken).length + 16

/-- Begins a call under a number; if it has to wait it is kept. -/
def call (c : Settings) (number : Nat) (call : Call) : Act Session (Progress Pending Answer) := do
  let n := (← Act.get).patience
  let p ← advance c n (← begin c call)
  match p with
  | .done _ => pure ()
  | .waiting p => Act.modify fun s => { s with waiting := s.waiting ++ [(number, p)] }
  return p

/-- Lets each waiting call go on in turn; the answers of those that are done, and the others. -/
def pass (c : Settings) : List (Nat × Pending) →
    Act Session (List (Nat × Answer) × List (Nat × Pending))
  | [] => pure ([], [])
  | (number, p) :: rest => do
    let n := (← Act.get).patience
    let q ← advance c n (.waiting p)
    let (answers, left) ← pass c rest
    match q with
    | .done a => return ((number, a) :: answers, left)
    | .waiting p => return (answers, (number, p) :: left)

def passes (c : Settings) : Nat → List (Nat × Pending) →
    Act Session (List (Nat × Answer) × List (Nat × Pending))
  | 0, waiting => pure ([], waiting)
  | n + 1, waiting => do
    let (answers, left) ← pass c waiting
    if answers.isEmpty then return ([], left)
    else
      let (more, left) ← passes c n left
      return (answers ++ more, left)

def close (gate : String) : Act Session Unit :=
  Act.modify fun s => if s.closed.contains gate then s else { s with closed := gate :: s.closed }

/-- Opens a gate and lets the waiting calls go on; the answers in the order in which they came. -/
def release (c : Settings) (gate : String) : Act Session (List (Nat × Answer)) := do
  Act.modify fun s => { s with closed := s.closed.filter (· ≠ gate) }
  let waiting := (← Act.get).waiting
  let (answers, left) ← passes c (waiting.length + 1) waiting
  Act.modify fun s => { s with waiting := left }
  return answers

end Session
end Gamebook
