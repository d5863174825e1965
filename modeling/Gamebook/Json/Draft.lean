import Gamebook.Json.Body
import Gamebook.Json.Numeral

/-! What a JSON text spells up to its first fault. Reading never fails: where the grammar breaks, the
draft holds `broken` and ends. A draft keeps what a value forgets: repeated names, the spelling of
numbers, strings that mean no text, and where everything stands. -/
namespace Gamebook.Json

/-- A spot in a text is given by what is left of the text there. -/
abbrev Spot := List Char

/-- The name of a member, none if it means no text, and the spot behind it at which it is complained
of. -/
structure Title where
  name? : Option String
  spot : Spot

/-- A part is closed when its closing bracket was reached. With each part goes the spot at which it is
complained of: an opening bracket, or behind anything else. -/
inductive Draft
  | broken
  | null
  | bool (b : Bool)
  | number (n : Numeral)
  | string (text : Option String)
  | array (items : List (Draft × Spot)) (closed : Bool)
  | object (members : List (Title × Draft × Spot)) (closed : Bool)

namespace Draft

abbrev Placed := Draft × Spot

def isSpace (c : Char) : Bool := c = ' ' || c = '\t' || c = '\n' || c = '\r'

def skip (cs : List Char) : List Char := cs.dropWhile isSpace

abbrev Reading (α : Type) := α × Option (List Char)

def readWord (word : List Char) (d : Draft) (cs : List Char) : Reading Draft :=
  match word.isPrefixOf? cs with
  | some rest => (d, some rest)
  | none => (broken, none)

def readString (cs : List Char) : Reading Draft :=
  match Body.scan cs with
  | some (pieces, rest) => (string ((Body.spell pieces).map String.ofList), some rest)
  | none => (broken, none)

def readNumber (cs : List Char) : Reading Draft :=
  match Numeral.read cs with
  | some (n, rest) => (number n, some rest)
  | none => (broken, none)

def readTitle (cs : List Char) : Option (Title × Option (List Char)) :=
  match cs with
  | '"' :: cs => do
    let (pieces, rest) ← Body.scan cs
    let name := (Body.spell pieces).map String.ofList
    match skip rest with
    | ':' :: rest => return (⟨name, ':' :: rest⟩, some rest)
    | '\x7d' :: rest => return (⟨name, rest⟩, none)
    | rest => return (⟨name, rest⟩, none)
  | _ => none

def place (cs : List Char) : Reading Draft → Reading Placed
  | (array items closed, rest) => ((array items closed, cs), rest)
  | (object members closed, rest) => ((object members closed, cs), rest)
  | (d, rest) => ((d, rest.getD []), rest)

mutual

def readValue : Nat → List Char → Reading Draft
  | 0, _ => (broken, none)
  | fuel + 1, cs =>
    match cs with
    | 'n' :: cs => readWord ['u', 'l', 'l'] null cs
    | 't' :: cs => readWord ['r', 'u', 'e'] (bool true) cs
    | 'f' :: cs => readWord ['a', 'l', 's', 'e'] (bool false) cs
    | '"' :: cs => readString cs
    | '[' :: cs =>
      match skip cs with
      | ']' :: cs => (array [] true, some cs)
      | cs =>
        let (items, rest) := readItems fuel cs
        (array items rest.isSome, rest)
    | '\x7b' :: cs =>
      match skip cs with
      | '\x7d' :: cs => (object [] true, some cs)
      | cs =>
        let (members, rest) := readMembers fuel cs
        (object members rest.isSome, rest)
    | cs => readNumber cs

def readItems : Nat → List Char → Reading (List Placed)
  | 0, _ => ([], none)
  | fuel + 1, cs =>
    let (item, rest) := place (skip cs) (readValue fuel (skip cs))
    match rest with
    | none => ([item], none)
    | some cs =>
      match skip cs with
      | ',' :: cs =>
        let (items, rest) := readItems fuel cs
        (item :: items, rest)
      | ']' :: cs => ([item], some cs)
      | _ => ([item], none)

def readMembers : Nat → List Char → Reading (List (Title × Placed))
  | 0, _ => ([], none)
  | fuel + 1, cs =>
    match readTitle (skip cs) with
    | none => ([], none)
    | some (title, none) => ([(title, broken, [])], none)
    | some (title, some cs) =>
      let (item, rest) := place (skip cs) (readValue fuel (skip cs))
      match rest with
      | none => ([(title, item)], none)
      | some cs =>
        match skip cs with
        | ',' :: cs =>
          let (members, rest) := readMembers fuel cs
          ((title, item) :: members, rest)
        | '\x7d' :: cs => ([(title, item)], some cs)
        | _ => ([(title, item)], none)

end

/-- The draft of a whole text, and whether nothing but space follows it. Each bracket or comma
passed takes one character, so twice the length is fuel enough. -/
def ofText (s : String) : Placed × Bool :=
  let cs := skip s.toList
  let (d, rest) := place cs (readValue (2 * cs.length + 2) cs)
  (d, match rest with
    | some cs => skip cs = []
    | none => false)

mutual

/-- The value of a draft that holds no fault and nests no deeper than `depth`. -/
def value? (depth : Nat) : Draft → Option Value
  | broken => none
  | null => some .null
  | bool b => some (.bool b)
  | number n => n.value?.map .number
  | string text => text.map .string
  | array items closed =>
    if depth = 0 || !closed then none else (values? (depth - 1) items).map .array
  | object members closed =>
    if depth = 0 || !closed then none else (fields? (depth - 1) members []).map .object

def values? (depth : Nat) : List Placed → Option (List Value)
  | [] => some []
  | (d, _) :: ds => do return (← value? depth d) :: (← values? depth ds)

def fields? (depth : Nat) : List (Title × Placed) → Table String Value →
    Option (List (String × Value))
  | [], fields => some fields
  | (title, d, _) :: ds, fields => do
    fields? depth ds (fields.put (← title.name?) (← value? depth d))

end

end Draft

def depthLimit : Nat := 127

def Value.ofText? (s : String) : Option Value :=
  let ((d, _), ended) := Draft.ofText s
  if ended then d.value? depthLimit else none

end Gamebook.Json
