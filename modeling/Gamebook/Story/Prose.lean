import Gamebook.Text.Blank

/-! Story text made ready for the panel: paragraphs divided by blank lines, as plain text and as
markup. Everything from the text is escaped before the markup is put in; two asterisks on either
side of something on one line make it strong. -/
namespace Gamebook.Story.Prose

def entity (c : Char) : List Char :=
  if c = '&' then ['&', 'a', 'm', 'p', ';']
  else if c = '<' then ['&', 'l', 't', ';']
  else if c = '>' then ['&', 'g', 't', ';']
  else if c = '"' then ['&', 'q', 'u', 'o', 't', ';']
  else if c = '\'' then ['&', '#', '0', '3', '9', ';']
  else [c]

def escape (cs : List Char) : List Char := cs.flatMap entity

def escapeText (s : String) : String := String.ofList (escape s.toList)

/-- What stands before and after the first two asterisks in a row. -/
def cut : List Char → Option (List Char × List Char)
  | [] => none
  | '*' :: '*' :: rest => some ([], rest)
  | c :: rest => (cut rest).map fun (before, after) => (c :: before, after)

theorem length_cut {cs before after : List Char} (h : cut cs = some (before, after)) :
    before.length + 2 + after.length = cs.length := by
  fun_induction cut cs generalizing before after with
  | case1 => simp at h
  | case2 rest => simp at h; obtain ⟨rfl, rfl⟩ := h; simp; omega
  | case3 c rest _ ih =>
    obtain ⟨⟨b, a⟩, hb, hp⟩ := Option.map_eq_some_iff.1 h
    simp only [Prod.mk.injEq] at hp
    obtain ⟨rfl, rfl⟩ := hp
    have := ih hb
    simp only [List.length_cons]; omega

theorem eq_of_cut {cs before after : List Char} (h : cut cs = some (before, after)) :
    cs = before ++ '*' :: '*' :: after := by
  fun_induction cut cs generalizing before after with
  | case1 => simp at h
  | case2 rest => simp at h; obtain ⟨rfl, rfl⟩ := h; rfl
  | case3 c rest _ ih =>
    obtain ⟨⟨b, a⟩, hb, hp⟩ := Option.map_eq_some_iff.1 h
    simp only [Prod.mk.injEq] at hp
    obtain ⟨rfl, rfl⟩ := hp
    simp [← ih hb]

def strongOpen : List Char := ['<', 's', 't', 'r', 'o', 'n', 'g', '>']
def strongClose : List Char := ['<', '/', 's', 't', 'r', 'o', 'n', 'g', '>']

/-- Asterisks that open nothing stay as they are, and the search goes on behind them. -/
def emphasize (cs : List Char) : List Char :=
  match h : cut cs with
  | none => cs
  | some (before, after) =>
    have := length_cut h
    match h' : cut after with
    | none => before ++ '*' :: '*' :: emphasize after
    | some (inner, rest) =>
      have := length_cut h'
      if inner ≠ [] ∧ '\n' ∉ inner then
        before ++ strongOpen ++ inner ++ strongClose ++ emphasize rest
      else before ++ '*' :: '*' :: emphasize after
termination_by cs.length

def breakLine (c : Char) : List Char := if c = '\n' then ['<', 'b', 'r', '/', '>'] else [c]

def block (cs : List Char) : List Char :=
  ['<', 'p', '>'] ++ (emphasize (escape cs)).flatMap breakLine ++ ['<', '/', 'p', '>']

def joinLines : List (List Char) → List Char
  | [] => []
  | [l] => l
  | l :: ls => l ++ '\n' :: joinLines ls

/-- The paragraph that the gathered lines make, if any of them holds anything. -/
def gather (ls : List (List Char)) : List (List Char) :=
  let p := Text.trimChars (joinLines ls)
  if p = [] then [] else [p]

/-- Blank lines end the paragraph whose lines were gathered so far. -/
def divide : List (List Char) → List (List Char) → List (List Char)
  | gathered, [] => gather gathered
  | gathered, l :: ls =>
    if l.all Text.isBlank then gather gathered ++ divide [] ls else divide (gathered ++ [l]) ls

def splitParagraphs (cs : List Char) : List (List Char) :=
  divide [] (Text.lines (Text.trimChars cs))

/-- The blocks of all paragraphs; a text without any has one empty block. -/
def markup (ps : List (List Char)) : List Char := if ps = [] then block [] else ps.flatMap block

end Prose

structure Prose where
  html : String
  paragraphs : List String
  deriving DecidableEq, Repr

def Prose.ofText (raw : String) : Prose :=
  let ps := splitParagraphs raw.toList
  ⟨String.ofList (markup ps), ps.map String.ofList⟩

end Gamebook.Story
