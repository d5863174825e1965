import Gamebook.Text.CaseTable

/-! Lower case of a text. Each character is mapped by itself, with two exceptions: the capital I with
a dot becomes two characters, and a capital sigma at the end of a word becomes the final sigma. -/
namespace Gamebook.Text

def within (rows : List (Nat × Nat)) (c : Char) : Bool :=
  rows.any fun r => r.1 ≤ c.toNat && c.toNat ≤ r.2

def isCased (c : Char) : Bool := within CaseTable.cased c
def isCaseIgnorable (c : Char) : Bool := within CaseTable.caseIgnorable c

def lowerForm? (c : Char) : Option Char :=
  let n := c.toNat
  match CaseTable.runs.find? fun r => r.1 ≤ n && n ≤ r.2.1 with
  | some (first, _, image) => some (Char.ofNat (image + (n - first)))
  | none =>
    match CaseTable.alternations.find? fun r => r.1 ≤ n && n ≤ r.2.1 && (n - r.1) % 2 == 0 with
    | some (first, _, image) => some (Char.ofNat (image + (n - first)))
    | none => none

/-- Whether the first character that is not passed over has case. -/
def meetsCase (cs : List Char) : Bool :=
  match cs.dropWhile isCaseIgnorable with
  | c :: _ => isCased c
  | [] => false

/-- The lower case of what follows `before`, which is given last character first. -/
def lowerFrom : List Char → List Char → List Char
  | _, [] => []
  | before, c :: rest =>
    let form :=
      if c = 'Σ' then if meetsCase before && !meetsCase rest then ['ς'] else ['σ']
      else if c = 'İ' then ['i', '\u0307']
      else [(lowerForm? c).getD c]
    form ++ lowerFrom (c :: before) rest

def lower (s : String) : String := String.ofList (lowerFrom [] s.toList)

end Gamebook.Text
