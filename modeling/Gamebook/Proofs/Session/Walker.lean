import Gamebook.Proofs.App.Spot

/-! Readers as walkers. A walker goes from screen to screen and, in the stories it finds there, from scene to
scene; it has a node in each story that it was shown, and marks that outlive it. Nothing of the player is
left here but where things are found: the screens, and the graphs of the stories. -/
namespace Gamebook

open Story (Graph)

/-- What a walker can find, and whether it can read its marks. -/
structure Library where
  screens : Screen.Registry
  graph? : StoryId → Option Graph
  readable : Bool

/-- The node that a story begins at: the marked one if the story has it, or else the start, or else the first. -/
def Story.Graph.opening? (g : Graph) (mark : Option NodeId) : Option NodeId :=
  match mark.filter g.contains with
  | some node => some node
  | none => if g.contains g.start then some g.start else g.ids.head?

namespace Story.Graph

theorem opening?_eq (g : Graph) (mark : Option NodeId) :
    g.opening? mark = (mark.filter g.contains).or g.entry? := by
  unfold opening?
  cases mark.filter g.contains <;> rfl

theorem contains_of_opening? {g : Graph} {mark : Option NodeId} {node : NodeId}
    (h : g.opening? mark = some node) : g.contains node = true := by
  rw [opening?_eq, Option.or_eq_some_iff] at h
  rcases h with h | ⟨-, h⟩
  · exact (Option.filter_eq_some_iff.1 h).2
  · exact contains_of_entry? h

end Story.Graph

structure Walker where
  screen : Option ScreenId := none
  memory : Screen.Memory := {}
  nodes : Table StoryId NodeId := []
  marks : Table StoryId NodeId

namespace Walker

section Moves

variable (c : NavigationSettings) (lib : Library)

def story? (w : Walker) : Option (StoryId × Graph) := do
  let screen ← w.screen
  let story ← c.storyOf? screen
  let graph ← lib.graph? story
  return (story, graph)

/-- The mark of a story, as far as it can be read. -/
def mark? (w : Walker) (story : StoryId) : Option NodeId := if lib.readable then w.marks.get? story else none

/-- The story on the screen goes on at its node, or begins. -/
def attend (w : Walker) : Walker :=
  match w.story? c lib with
  | none => w
  | some (story, g) =>
    match (w.nodes.get? story).or (g.opening? (w.mark? lib story)) with
    | none => w
    | some node => { w with nodes := w.nodes.put story node }

def move (screen : ScreenId) (w : Walker) : Walker :=
  { w with screen := some screen, memory := w.memory.note c screen }

def goTo (route : Screen.Route) (w : Walker) : Option ScreenId × Walker :=
  match w.memory.resolve route lib.screens with
  | .ok screen => (some screen, (w.move c screen).attend c lib)
  | .error _ => (none, w)

def go (raw : String) (w : Walker) : Option ScreenId × Walker :=
  w.goTo c lib (.ofText c.aliases raw)

def boot (link : Option String) (w : Walker) : Walker :=
  (w.goTo c lib (.screen (Navigation.first c lib.screens link w.memory))).2

/-- Where an option of the current node leads, in which story. Only the first four can be taken. -/
def option? (slot : Nat) (w : Walker) : Option (StoryId × NodeId) := do
  let (story, g) ← w.story? c lib
  let node ← w.nodes.get? story
  let scene ← g.scene? node
  let choice ← (scene.options.take 4)[slot]?
  return (story, choice.target)

/-- The node that was chosen, if any; it is marked as well. -/
def choose (slot : Nat) (w : Walker) : Option NodeId × Walker :=
  match w.option? c lib slot with
  | some (story, node) =>
    (some node, { w with nodes := w.nodes.put story node, marks := w.marks.put story node })
  | none => (none, w)

end Moves

inductive Turn
  | choose (slot : Nat)
  | go (raw : String)

def Turn.call : Turn → Call
  | choose slot => .choose slot
  | go raw => .go raw

def Turn.raw? : Turn → Option String
  | choose _ => none
  | go raw => some raw

variable (c : NavigationSettings) (lib : Library)

def answer (w : Walker) : Turn → Answer
  | .choose slot => .node (w.choose c lib slot).1
  | .go raw => .screen (w.go c lib raw).1

def take (w : Walker) : Turn → Walker
  | .choose slot => (w.choose c lib slot).2
  | .go raw => (w.go c lib raw).2

def walk (w : Walker) (turns : List Turn) : Walker := turns.foldl (take c lib) w

variable {c : NavigationSettings} {lib : Library} {w : Walker}

def Sound (lib : Library) (w : Walker) : Prop :=
  ∀ story g node, lib.graph? story = some g → w.nodes.get? story = some node → g.contains node = true

theorem story?_eq_some {story : StoryId} {g : Graph} (h : w.story? c lib = some (story, g)) :
    ∃ screen, w.screen = some screen ∧ c.storyOf? screen = some story ∧ lib.graph? story = some g := by
  unfold story? at h
  simp only [Option.bind_eq_bind, Option.bind_eq_some_iff] at h
  obtain ⟨screen, hscreen, story', hstory, g', hg, he⟩ := h
  cases he
  exact ⟨screen, hscreen, hstory, hg⟩

theorem story?_of_screen {screen : ScreenId} {story : StoryId} {g : Graph} (hscreen : w.screen = some screen)
    (hstory : c.storyOf? screen = some story) (hg : lib.graph? story = some g) :
    w.story? c lib = some (story, g) := by
  rw [story?, hscreen, Option.bind_eq_bind, Option.bind_some, hstory]
  simp [hg]

theorem option?_eq_some {slot : Nat} {story : StoryId} {target : NodeId}
    (h : w.option? c lib slot = some (story, target)) :
    ∃ g node scene choice, w.story? c lib = some (story, g) ∧ w.nodes.get? story = some node ∧
      g.scene? node = some scene ∧ (scene.options.take 4)[slot]? = some choice ∧ choice.target = target := by
  unfold option? at h
  simp only [Option.bind_eq_bind, Option.bind_eq_some_iff] at h
  obtain ⟨⟨story', g⟩, hstory, node, hnode, scene, hscene, choice, hchoice, he⟩ := h
  cases he
  exact ⟨g, node, scene, choice, hstory, hnode, hscene, hchoice, rfl⟩

theorem choose_of_some {slot : Nat} {story : StoryId} {node : NodeId}
    (h : w.option? c lib slot = some (story, node)) :
    w.choose c lib slot =
      (some node, { w with nodes := w.nodes.put story node, marks := w.marks.put story node }) := by
  simp only [choose, h]

theorem choose_of_none {slot : Nat} (h : w.option? c lib slot = none) : w.choose c lib slot = (none, w) := by
  simp only [choose, h]

theorem Sound.put (h : w.Sound lib) {story : StoryId} {g : Graph} {node : NodeId}
    (hg : lib.graph? story = some g) (hin : g.contains node = true) (marks : Table StoryId NodeId) :
    Walker.Sound lib { w with nodes := w.nodes.put story node, marks } := by
  intro story' g' node' hg' hnode'
  rw [Table.get?_put] at hnode'
  split at hnode'
  · rename_i hstory
    obtain rfl := Option.some.inj hnode'
    rw [← hstory, hg] at hg'
    obtain rfl := Option.some.inj hg'
    exact hin
  · exact h story' g' node' hg' hnode'

theorem Sound.attend (h : w.Sound lib) : (w.attend c lib).Sound lib := by
  unfold Walker.attend
  split
  · exact h
  · rename_i story g hstory
    obtain ⟨screen, -, -, hg⟩ := story?_eq_some hstory
    split
    · exact h
    · rename_i node hnode
      refine h.put hg ?_ _
      rcases Option.or_eq_some_iff.1 hnode with hnode | ⟨-, hnode⟩
      · exact h story g node hg hnode
      · exact Graph.contains_of_opening? hnode

theorem attend_of_story {story : StoryId} {g : Graph} {node : NodeId}
    (hstory : w.story? c lib = some (story, g))
    (hnode : (w.nodes.get? story).or (g.opening? (w.mark? lib story)) = some node) :
    w.attend c lib = { w with nodes := w.nodes.put story node } := by
  simp only [attend, hstory, hnode]

theorem attend_of_node {story : StoryId} {g : Graph} {node : NodeId} (hstory : w.story? c lib = some (story, g))
    (hnode : w.nodes.get? story = some node) : w.attend c lib = w := by
  rw [attend_of_story hstory (by rw [hnode]; rfl), Table.put_of_get?_eq hnode]

theorem screen_attend (w : Walker) : (w.attend c lib).screen = w.screen := by
  unfold attend
  split
  · rfl
  · split <;> rfl

theorem marks_attend (w : Walker) : (w.attend c lib).marks = w.marks := by
  unfold attend
  split
  · rfl
  · split <;> rfl

theorem story?_attend (w : Walker) : (w.attend c lib).story? c lib = w.story? c lib := by
  rw [story?, screen_attend, story?]

theorem attend_attend (w : Walker) : (w.attend c lib).attend c lib = w.attend c lib := by
  cases hstory : w.story? c lib with
  | none => simp only [attend, hstory]
  | some e =>
    obtain ⟨story, g⟩ := e
    cases hnode : (w.nodes.get? story).or (g.opening? (w.mark? lib story)) with
    | none => simp only [attend, hstory, hnode]
    | some node =>
      have hput : (w.attend c lib).nodes.get? story = some node := by
        rw [attend_of_story hstory hnode]
        exact Table.get?_put_self ..
      exact attend_of_node ((story?_attend w).trans hstory) hput

/-- The story on the screen begins, unless it was begun; all others stay as they are. -/
theorem get?_nodes_attend (w : Walker) (story : StoryId) :
    (w.attend c lib).nodes.get? story = (w.nodes.get? story).or
      ((w.story? c lib).bind fun e => if e.1 = story then e.2.opening? (w.mark? lib story) else none) := by
  cases hstory : w.story? c lib with
  | none => simp [attend, hstory]
  | some e =>
    obtain ⟨story', g⟩ := e
    by_cases heq : story' = story
    · subst heq
      rw [Option.bind_some, if_pos rfl]
      cases hnode : (w.nodes.get? story').or (g.opening? (w.mark? lib story')) with
      | none => simpa only [attend, hstory, hnode] using (Option.or_eq_none_iff.1 hnode).1
      | some node =>
        rw [attend_of_story hstory hnode]
        exact Table.get?_put_self ..
    · simp only [Option.bind_some, if_neg heq, Option.or_none, attend, hstory]
      split
      · rfl
      · exact Table.get?_put_of_ne _ _ heq

/-- Leaving a story and coming back to it does not move its reader. -/
theorem get?_nodes_go {story : StoryId} {node : NodeId} (h : w.nodes.get? story = some node) (raw : String) :
    (w.go c lib raw).2.nodes.get? story = some node := by
  unfold go goTo
  split
  · rw [get?_nodes_attend]
    exact congrArg (Option.or · _) h
  · exact h

theorem get?_nodes_goTo_of_none {route : Screen.Route} {story : StoryId} {g : Graph}
    (h : w.nodes.get? story = none) (hbare : w.story? c lib ≠ some (story, g))
    (hstory : (w.goTo c lib route).2.story? c lib = some (story, g)) :
    (w.goTo c lib route).2.nodes.get? story = g.opening? (w.mark? lib story) := by
  unfold goTo at hstory ⊢
  split at hstory
  · rename_i screen hscreen
    rw [story?_attend] at hstory
    rw [get?_nodes_attend, hstory]
    have hnone : (w.move c screen).nodes.get? story = none := h
    rw [hnone, Option.none_or, Option.bind_some, if_pos rfl]
    rfl
  · exact absurd hstory hbare

/-- A place of the session that the story has comes first, as it does for a walker. -/
theorem Sound.resumeNode?_eq (h : w.Sound lib) {story : StoryId} {g : Graph} (hg : lib.graph? story = some g)
    (mark : Option NodeId) :
    Storybook.resumeNode? g (w.nodes.get? story) mark = (w.nodes.get? story).or (g.opening? mark) := by
  rw [Storybook.resumeNode?, g.opening?_eq]
  cases hnode : w.nodes.get? story with
  | none => rfl
  | some node => simp [h story g node hg hnode]

/-- Two walkers on the same screen, who came there on the same way. -/
structure Beside (w w' : Walker) : Prop where
  screen : w.screen = w'.screen
  memory : w.memory = w'.memory

theorem Beside.attend {w' : Walker} (h : w.Beside w') : (w.attend c lib).Beside (w'.attend c lib) := by
  have hmemory : ∀ w : Walker, (w.attend c lib).memory = w.memory := fun w => by
    unfold Walker.attend
    split
    · rfl
    · split <;> rfl
  exact ⟨by rw [screen_attend, screen_attend, h.screen], by rw [hmemory, hmemory, h.memory]⟩

theorem Beside.goTo {w' : Walker} (h : w.Beside w') (route : Screen.Route) :
    (w.goTo c lib route).2.Beside (w'.goTo c lib route).2 := by
  unfold Walker.goTo
  rw [h.memory]
  split
  · have hmoved : ∀ screen, (w.move c screen).Beside (w'.move c screen) := fun screen =>
      ⟨rfl, congrArg (·.note c screen) h.memory⟩
    exact (hmoved _).attend
  · exact h

theorem Beside.boot {w' : Walker} (h : w.Beside w') (link : Option String) :
    (w.boot c lib link).Beside (w'.boot c lib link) := by
  unfold Walker.boot
  rw [h.memory]
  exact h.goTo _

theorem Beside.walk {w' : Walker} (h : w.Beside w') (turns : List Turn) :
    (w.walk c lib turns).Beside (w'.walk c lib ((turns.filterMap Turn.raw?).map .go)) := by
  induction turns generalizing w w' with
  | nil => exact h
  | cons turn turns ih =>
    cases turn with
    | choose slot =>
      refine ih (w := (w.choose c lib slot).2) ?_
      unfold choose
      split
      · exact ⟨h.screen, h.memory⟩
      · exact h
    | go raw => exact ih (h.goTo _)

/-- A story is at its mark, or was not begun. -/
structure Marked (story : StoryId) (node : NodeId) (w : Walker) : Prop where
  mark : w.marks.get? story = some node
  node : w.nodes.get? story = none ∨ w.nodes.get? story = some node

section Marks

variable {story : StoryId} {node : NodeId} {g : Graph}

theorem Marked.attend (h : w.Marked story node) (hreadable : lib.readable = true)
    (hg : lib.graph? story = some g) (hin : g.contains node = true) : (w.attend c lib).Marked story node := by
  refine ⟨(marks_attend w).symm ▸ h.mark, ?_⟩
  rw [get?_nodes_attend]
  rcases h.node with hnone | hsome
  · rw [hnone, Option.none_or]
    cases hstory : w.story? c lib with
    | none => exact .inl rfl
    | some e =>
      obtain ⟨story', g'⟩ := e
      by_cases heq : story' = story
      · subst heq
        obtain ⟨screen, -, -, hg'⟩ := story?_eq_some hstory
        obtain rfl := Option.some.inj (hg.symm.trans hg')
        right
        simp [mark?, hreadable, h.mark, Graph.opening?, Option.filter, hin]
      · exact .inl (by simp [heq])
  · rw [hsome]
    exact .inr rfl

theorem Marked.goTo (h : w.Marked story node) (hreadable : lib.readable = true)
    (hg : lib.graph? story = some g) (hin : g.contains node = true) (route : Screen.Route) :
    (w.goTo c lib route).2.Marked story node := by
  unfold Walker.goTo
  split
  · rename_i screen hscreen
    have hmoved : (w.move c screen).Marked story node := ⟨h.mark, h.node⟩
    exact hmoved.attend hreadable hg hin
  · exact h

theorem Marked.walk (h : w.Marked story node) (hreadable : lib.readable = true)
    (hg : lib.graph? story = some g) (hin : g.contains node = true) (raws : List String) :
    (w.walk c lib (raws.map .go)).Marked story node := by
  induction raws generalizing w with
  | nil => exact h
  | cons raw raws ih => exact ih (h.goTo hreadable hg hin _)

end Marks

end Walker
end Gamebook
