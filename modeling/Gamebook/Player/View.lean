import Gamebook.App.Call

/-! What the terminal player shows, and when it shows it again. -/
namespace Gamebook.Player

/-- What was on the terminal last. -/
structure View where
  screen : Option ScreenId := none
  node : Option NodeId := none
  deriving DecidableEq, Repr

structure Delta where
  screenChanged : Bool
  nodeChanged : Bool
  deriving DecidableEq, Repr

def Delta.isEmpty (d : Delta) : Bool := !d.screenChanged && !d.nodeChanged

def View.ofStage (stage : Stage) : View where
  screen := stage.active
  node := (stage.active.bind stage.panel?).map (·.node)

def View.delta (old new : View) : Delta := ⟨new.screen ≠ old.screen, new.node ≠ old.node⟩

def stripEmphasis : List Char → List Char
  | [] => []
  | '*' :: '*' :: rest => stripEmphasis rest
  | c :: rest => c :: stripEmphasis rest

def regionLine (i : Nat) (r : Stage.Region) : String :=
  "  [" ++ toString (i + 1) ++ "] " ++ r.label ++ " -> " ++ r.action.getD "-" ++ " " ++
    r.arg.getD "" ++ "\n"

def slotLine (i : Nat) (s : Stage.Slot) : String :=
  "  c" ++ toString (i + 1) ++ (if s.target.isSome then " " else "x") ++ " " ++ s.label ++ "\n"

def describePanel (p : Stage.Panel) : String :=
  "\n-- " ++ p.story.text ++ " / " ++ p.node.text ++ " --\n" ++
    String.join (p.paragraphs.map fun s => String.ofList (stripEmphasis s.toList) ++ "\n\n") ++
    String.join (p.slots.mapIdx slotLine)

def describeSurface (f : Stage.Surface) : String :=
  "== " ++ f.id.text ++ " ==\n" ++
    (if f.regions.isEmpty then "  (no regions)\n" else String.join (f.regions.mapIdx regionLine)) ++
    match f.panel with
    | some p => describePanel p
    | none => ""

def describe (stage : Stage) : String :=
  match stage.activeSurface? with
  | some f => describeSurface f
  | none => "(no active screen)\n"

def clearScreen : String := "\x1b[2J\x1b[H"

/-- What is printed after a command: a new screen clears the terminal, and a screen that did not
change is shown again only on demand. -/
def screenText (stage : Stage) (view : View) (forced : Bool) : String × View :=
  let new := View.ofStage stage
  let delta := view.delta new
  ((if delta.screenChanged then clearScreen else "") ++
    (if forced || !delta.isEmpty then describe stage else ""), new)

end Gamebook.Player
