import Gamebook.App.Call

/-! The commands of the terminal player, one a line. -/
namespace Gamebook.Player

/-- Regions and choices are counted from one. -/
inductive Command
  | region (n : Nat)
  | choice (n : Nat)
  | tap (p : Stage.Point)
  | go (raw : String)
  | look
  | quit
  | unknown (line : String)
  deriving DecidableEq

namespace Command

def number? : List Char → Option Command
  | 'c' :: ds => (Decimal.word64? ds).map choice
  | ds => (Decimal.word64? ds).map region

def tap? : List (List Char) → Option Command
  | x :: y :: _ => do return tap ⟨← Decimal.single? x, ← Decimal.single? y⟩
  | _ => none

/-- Words after those that a command needs are passed over. -/
def ofWords? : List (List Char) → Option Command
  | [] => some look
  | head :: rest =>
    if head = ['l'] then some look
    else if head = ['q'] then some quit
    else if head = ['g'] then rest.head?.map fun target => go (String.ofList target)
    else if head = ['t'] then tap? rest
    else number? head

def ofLine (line : String) : Command :=
  (ofWords? (Text.words line.toList)).getD (unknown (Text.trim line))

/-- The call that a command makes; a number that stands for nothing makes none. -/
def call? (stage : Stage) : Command → Option Call
  | region 0 => none
  | region (n + 1) => do
    let region ← (← stage.activeSurface?).regions[n]?
    return .tap region.rect.center
  | choice 0 => none
  | choice (n + 1) => some (.choose n)
  | tap p => some (.tap p)
  | go raw => some (.go raw)
  | _ => none

end Command
end Gamebook.Player
