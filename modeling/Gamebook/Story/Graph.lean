import Gamebook.Name
import Gamebook.Table

/-! Branching stories as graphs of scenes. Scenes keep the order in which they were declared; a scene
declared again under a name keeps the place of the first and has the content of the last. -/
namespace Gamebook.Story

structure Choice where
  label : String
  target : NodeId
  deriving DecidableEq, Repr

structure Scene where
  id : NodeId
  text : String
  options : List Choice
  deriving DecidableEq, Repr

structure Graph where
  start : NodeId
  scenes : Table NodeId Scene
  deriving DecidableEq, Repr

namespace Graph

def empty (start : NodeId) : Graph := ⟨start, []⟩

def insert (g : Graph) (s : Scene) : Graph := { g with scenes := g.scenes.put s.id s }

def scene? (g : Graph) (id : NodeId) : Option Scene := g.scenes.get? id
def contains (g : Graph) (id : NodeId) : Bool := g.scenes.contains id
def ids (g : Graph) : List NodeId := g.scenes.keys
def size (g : Graph) : Nat := g.scenes.length
def isEmpty (g : Graph) : Bool := g.scenes.isEmpty
def first? (g : Graph) : Option NodeId := g.ids.head?

/-- Where a reader without a place begins: the start scene, or else the first one. -/
def entry? (g : Graph) : Option NodeId := if g.contains g.start then some g.start else g.first?

/-- Leaves out the choices that lead to no scene. -/
def dropDangling (g : Graph) : Graph :=
  { g with scenes := g.scenes.mapValues fun s =>
      { s with options := s.options.filter fun c => g.contains c.target } }

theorem scene?_insert (g : Graph) (s : Scene) (id : NodeId) :
    (g.insert s).scene? id = if s.id = id then some s else g.scene? id :=
  Table.get?_put ..

@[simp] theorem ids_dropDangling (g : Graph) : g.dropDangling.ids = g.ids := by
  simp [ids, dropDangling]

theorem contains_iff (g : Graph) (id : NodeId) : g.contains id = true ↔ id ∈ g.ids :=
  Table.contains_iff ..

end Graph
end Gamebook.Story
