/-! Positions in a text, as complaints about it give them. -/
namespace Gamebook.Text

/-- Lines are counted from one, columns in bytes from the last line feed. -/
structure Position where
  line : Nat := 1
  column : Nat := 0
  deriving DecidableEq, Repr

namespace Position

def step (p : Position) (c : Char) : Position :=
  if c = '\n' then ⟨p.line + 1, 0⟩ else ⟨p.line, p.column + c.utf8Size⟩

def behind (cs : List Char) : Position := cs.foldl step {}

def describe (p : Position) : String :=
  "line " ++ toString p.line ++ " column " ++ toString p.column

end Position
end Gamebook.Text
