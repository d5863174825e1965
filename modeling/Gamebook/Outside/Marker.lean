import Gamebook.Json.Record
import Gamebook.Name

/-! Markers: the documents in which the places of readers are kept. -/
namespace Gamebook.Outside

structure Marker where
  story : StoryId
  node : NodeId
  deriving DecidableEq, Repr

namespace Marker

open Json (Misfit Complaint Draft)

/-- A marker of which fields may still be missing. -/
structure Partial where
  story : Option StoryId := none
  node : Option NodeId := none

def fields : List (Draft.FieldReader Partial) := [
  ⟨"story_id", fun d r => do return { r with story := some ⟨← Draft.readText d⟩ }⟩,
  ⟨"node_id", fun d r => do return { r with node := some ⟨← Draft.readText d⟩ }⟩]

def complete (r : Partial) : Except Misfit Marker :=
  match r.story, r.node with
  | some story, some node => .ok ⟨story, node⟩
  | none, _ => .error (.missing "story_id")
  | _, none => .error (.missing "node_id")

def ofDraft (d : Draft.Placed) : Except Complaint Marker := do
  (complete (← Draft.readRecord "PositionMarker" fields {} d)).mapError (⟨·, d.2⟩)

def ofText (s : String) : Except Complaint Marker := Draft.readWhole ofDraft s

/-- One field a line, set in by two spaces; no line end follows the last brace. -/
def chars (m : Marker) : List Char :=
  "\x7b\n  \"story_id\": ".toList ++ Json.Body.write m.story.text.toList ++
    ",\n  \"node_id\": ".toList ++ Json.Body.write m.node.text.toList ++ "\n\x7d".toList

def text (m : Marker) : String := String.ofList m.chars

end Marker
end Gamebook.Outside
