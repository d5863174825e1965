import Gamebook.Act

/-! Where the documents of stories are found. A fixed catalog lists them; a pack catalog reads them from
a document, which is fetched when it is first needed and again after each failure, and kept after
the first success. -/
namespace Gamebook

structure Locator where
  story : StoryId
  pack : String
  root : String
  storyUrl : String
  coverUrl : String
  deriving DecidableEq, Repr

inductive Catalog
  | fixed (locators : Table StoryId Locator)
  | packs (path : String) (index : Option (Table StoryId Locator))
  deriving DecidableEq, Repr

namespace Catalog

open Json (Value)

def isSlash (c : Char) : Bool := c = '/'

/-- Two paths with one slash between them, unless one of them is empty. -/
def joinPaths (left right : String) : String :=
  let l := ((Text.trimChars left.toList).reverse.dropWhile isSlash).reverse
  let r := (Text.trimChars right.toList).dropWhile isSlash
  String.ofList (if l = [] then r else if r = [] then l else l ++ '/' :: r)

/-- The text of a field; what is no string counts as empty. -/
def textField (v : Value) (name : String) : String := ((v.field? name).bind Value.text?).getD ""

def listField (v : Value) (name : String) : List Value :=
  ((v.field? name).bind Value.items?).getD []

/-- An empty path names no document, whatever the root. -/
def urlField (root : String) (v : Value) (name : String) : String :=
  let path := textField v name
  if path = "" then "" else joinPaths root path

/-- The locator of a story entry in its pack; an entry with a blank id has none. -/
def locator? (pack v : Value) : Option Locator := do
  let id ← Text.trimmed? (textField v "id")
  let root := textField pack "root"
  return ⟨⟨id⟩, textField pack "packId", root, urlField root v "storyJson", urlField root v "cover"⟩

def locators (doc : Value) : List Locator :=
  (listField doc "packs").flatMap fun pack => (listField pack "stories").filterMap (locator? pack)

/-- The last locator of a story wins. -/
def index (doc : Value) : Table StoryId Locator :=
  Table.ofList ((locators doc).map fun l => (l.story, l))

def ofList (stories : List (StoryId × String)) : Catalog :=
  .fixed (Table.ofList (stories.map fun s => (s.1, ⟨s.1, "", "", s.2, ""⟩)))

structure Preloading where
  path : String
  deriving DecidableEq, Repr

abbrev Preloading.request (w : Preloading) : Request := .document w.path

def Preloading.resume (w : Preloading) : w.request.Reply → Act Catalog (Except SourceFault Unit)
  | .error cause => pure (.error cause)
  | .ok doc => do
    Act.set (.packs w.path (some (index doc)))
    pure (.ok ())

def preload : Act Catalog (Progress Preloading (Except SourceFault Unit)) := do
  match ← Act.get with
  | .packs path none => pure (.waiting ⟨path⟩)
  | _ => pure (.done (.ok ()))

def lookUp? : Catalog → StoryId → Option Locator
  | .fixed locators, story => locators.get? story
  | .packs _ (some index), story => index.get? ⟨Text.trim story.text⟩
  | .packs _ none, _ => none

structure Locating where
  story : StoryId
  path : String
  deriving DecidableEq, Repr

abbrev Locating.request (w : Locating) : Request := .document w.path

def Locating.resume (w : Locating) : w.request.Reply → Act Catalog (Option Locator)
  | .error cause => do
    Act.give (.catalogFailed w.path cause)
    pure none
  | .ok doc => do
    Act.set (.packs w.path (some (index doc)))
    return (← Act.get).lookUp? w.story

/-- Only a pack catalog that is not loaded yet has to wait, and not for a blank name. -/
def resolve (story : StoryId) : Act Catalog (Progress Locating (Option Locator)) := do
  match ← Act.get with
  | .packs path none =>
    if Text.blank story.text then pure (.done none) else pure (.waiting ⟨story, path⟩)
  | catalog => pure (.done (catalog.lookUp? story))

end Catalog
end Gamebook
