import Gamebook.Fault

/-! Paths as they are written. Joining keeps the spelling of both sides; a path that starts with a slash
replaces what it is joined to. Lengths are limited, in bytes. -/
namespace Gamebook.Outside.Path

def segments (cs : List Char) : List (List Char) := Text.stretches (· = '/') cs

def spell (ss : List (List Char)) : String := String.ofList (['/'].intercalate ss)

def isAbsolute (cs : List Char) : Bool := cs.head? = some '/'

def joinChars (base path : List Char) : List Char :=
  if isAbsolute path then path
  else if base = [] ∨ base.getLast? = some '/' then base ++ path
  else base ++ '/' :: path

def join (base path : String) : String := String.ofList (joinChars base.toList path.toList)

def here : List Char := ['.']
def parent : List Char := ['.', '.']

def dropIdle (ss : List (List Char)) : List (List Char) :=
  (ss.reverse.dropWhile fun s => s = [] ∨ s = here).reverse

/-- The path above another, by its spelling: without the last segment that counts. -/
def above (ss : List (List Char)) : List (List Char) := dropIdle (dropIdle ss).dropLast

def nameLimit : Nat := 255
def pathLimit : Nat := 4095

def byteLength (cs : List Char) : Nat := cs.foldl (fun n c => n + c.utf8Size) 0

def check (cs : List Char) : Except FileFault Unit :=
  if '\x00' ∈ cs then .error .nulByte
  else if pathLimit < byteLength cs then .error .nameTooLong
  else .ok ()

def dropHere : List Char → List Char
  | '.' :: '/' :: rest => dropHere rest
  | cs => cs

/-- A document path without white space around it and without a start of its own. -/
def relative (path : String) : String :=
  String.ofList ((dropHere (Text.trimChars path.toList)).dropWhile (· = '/'))

end Gamebook.Outside.Path
