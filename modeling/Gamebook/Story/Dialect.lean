import Gamebook.Json.Print
import Gamebook.Settings
import Gamebook.Story.Graph

/-! Story documents in any of their dialects. Each thing is looked up under several names in a fixed
order, and the first filled field is taken; nothing is merged. A document without a collection of
scenes gives an empty graph. -/
namespace Gamebook.Story.Dialect

open Json (Value)

def mapNames : List String := ["scenes", "nodes"]
def arrayNames : List String := ["sections"]
def startNames : List String := ["start", "entry", "begin", "root"]
def idNames : List String := ["id", "key", "name"]
def textNames : List String := ["text", "body", "narrative", "content"]
def choiceNames : List String := ["options", "choices", "choice", "links"]
def labelNames : List String := ["label", "text", "title", "name"]
def targetNames : List String := ["to", "next", "go", "target", "id"]

/-- The text of the first filled field, trimmed, if that is a scalar and something is left of it. -/
def firstText? (v : Value) (names : List String) : Option String :=
  ((v.firstFilled? names).bind Value.scalar?).bind Text.trimmed?

/-- A choice without a label of its own gets the one from the settings, one without a target is none. -/
def choice? (c : StorySettings) (v : Value) : Option Choice := do
  let target ← firstText? v targetNames
  return ⟨(firstText? v labelNames).getD c.continueLabel, ⟨target⟩⟩

def scene? (c : StorySettings) (id : NodeId) (v : Value) : Option Scene := do
  let _ ← v.fields?
  let text := ((v.firstFilled? textNames).bind Value.scalar?).getD ""
  let choices := ((v.firstFilled? choiceNames).bind Value.items?).getD []
  return ⟨id, text, choices.filterMap (choice? c)⟩

/-- The entries of a map of scenes under their trimmed names; blank names are passed over. -/
def mapEntries (fields : List (String × Value)) : List (NodeId × Value) :=
  fields.filterMap fun e => (Text.trimmed? e.1).map fun id => (⟨id⟩, e.2)

/-- The entries of an array of scenes that name themselves. -/
def arrayEntries (items : List Value) : List (NodeId × Value) :=
  items.filterMap fun v => (firstText? v idNames).map fun id => (⟨id⟩, v)

/-- The entries of the collection that a document has, a map before an array. -/
def entries? (doc : Value) : Option (List (NodeId × Value)) :=
  match mapNames.findSome? fun name => (doc.field? name).bind Value.fields? with
  | some fields => some (mapEntries fields)
  | none =>
    (arrayNames.findSome? fun name => (doc.field? name).bind Value.items?).map arrayEntries

def start (c : StorySettings) (doc : Value) : NodeId :=
  match firstText? doc startNames with
  | some id => ⟨id⟩
  | none => c.defaultStart

def scenes (c : StorySettings) (entries : List (NodeId × Value)) : List Scene :=
  entries.filterMap fun e => scene? c e.1 e.2

end Dialect

def Graph.ofDocument (c : StorySettings) (doc : Json.Value) : Graph :=
  ((Dialect.scenes c ((Dialect.entries? doc).getD [])).foldl Graph.insert
    (Graph.empty (Dialect.start c doc))).dropDangling

end Gamebook.Story
