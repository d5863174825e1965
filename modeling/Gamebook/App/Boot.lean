import Gamebook.App.Basic

/-! Booting: the registry is loaded and the first screen shown, then the collaborators are started, then
the transitions so far are delivered. One boot runs at a time. A boot that failed can be tried again,
and after one that succeeded the others have nothing to do. -/
namespace Gamebook.App

/-- A boot that waits: for its turn, or at one of its three stages. -/
inductive Booting
  | turn (link : Option String)
  | opening (w : Opening)
  | starting (w : Starting)
  | pumping (w : Telling)
  deriving DecidableEq, Repr

namespace Booting

abbrev request : Booting → Request
  | turn _ => .turn
  | opening w => w.request
  | starting w => w.request
  | pumping w => w.request

end Booting

def endTurn : Act App Unit := Act.modify fun a => { a with booting := false }

def ready : Act App (Progress Booting (Except LoadFault Unit)) := do
  Act.modify fun a => { a with booted := true }
  endTurn
  return .done (.ok ())

/-- The collaborators have been started. -/
def bootStarted (c : Settings) (failed : Nat) :
    Act App (Progress Booting (Except LoadFault Unit)) := do
  if 0 < failed then Act.give (.startsFailed failed)
  match ← pump c with
  | .done () => ready
  | .waiting w => return .waiting (.pumping w)

/-- The first screen is shown, or there is no registry. -/
def bootOpened (c : Settings) : Except LoadFault Unit →
    Act App (Progress Booting (Except LoadFault Unit))
  | .error cause => do
    Act.give (.bootFailed cause)
    endTurn
    return .done (.error cause)
  | .ok () => do
    match ← startAll c with
    | .done failed => bootStarted c failed
    | .waiting w => return .waiting (.starting w)

def takeTurn (c : Settings) (link : Option String) :
    Act App (Progress Booting (Except LoadFault Unit)) := do
  if (← Act.get).booted then return .done (.ok ())
  else do
    Act.modify fun a => { a with booting := true }
    match ← navigating (Navigation.start c link) with
    | .done result => bootOpened c result
    | .waiting w => return .waiting (.opening w)

def boot (c : Settings) (link : Option String) :
    Act App (Progress Booting (Except LoadFault Unit)) := do
  if (← Act.get).booting then return .waiting (.turn link) else takeTurn c link

def Booting.resume (c : Settings) : (w : Booting) → w.request.Reply →
    Act App (Progress Booting (Except LoadFault Unit))
  | .turn link, () => takeTurn c link
  | .opening w, reply => do
    match ← navigating (w.resume c reply) with
    | .done result => bootOpened c result
    | .waiting w => return .waiting (.opening w)
  | .starting w, reply => do
    match ← resumeStartAll c w reply with
    | .done failed => bootStarted c failed
    | .waiting w => return .waiting (.starting w)
  | .pumping w, reply => do
    match ← resumePump c w reply with
    | .done () => ready
    | .waiting w => return .waiting (.pumping w)

end Gamebook.App
