import Gamebook.Outside.Basic
import Gamebook.Proofs.Outside.Disks

/-! Where files lie. A path is resolved by its spelling alone: it leads so many steps up, and then down by names,
`Path.Way`. What a disk resolves a path to is never another place. A path that is joined to a directory stays inside
it exactly if it comes back by the names of the directory that it left; for documents and markers, this is
`contained_iff_returns`. -/
namespace Gamebook.Outside

namespace Path

def step (p : Place) (name : List Char) : Place :=
  if name = [] ∨ name = here then p
  else if name = parent then p.dropLast
  else p ++ [name]

def place (home : Place) (cs : List Char) : Place := (segments cs).foldl step (if isAbsolute cs then [] else home)

/-- Where a path leads from anywhere: so many steps up, and then down by names. -/
structure Way where
  ups : Nat := 0
  downs : Place := []
  deriving DecidableEq

namespace Way

def step (w : Way) (name : List Char) : Way :=
  if name = [] ∨ name = here then w
  else if name = parent then
    if w.downs = [] then { w with ups := w.ups + 1 } else { w with downs := w.downs.dropLast }
  else { w with downs := w.downs ++ [name] }

def lead (w : Way) (p : Place) : Place := p.take (p.length - w.ups) ++ w.downs

/-- The way goes down again by those names of a place that it went up before. -/
def Returns (w : Way) (p : Place) : Prop := p.drop (p.length - w.ups) <+: w.downs

instance (w : Way) (p : Place) : Decidable (w.Returns p) := inferInstanceAs (Decidable (_ <+: _))

theorem lead_step (w : Way) (p : Place) (name : List Char) : (w.step name).lead p = Path.step (w.lead p) name := by
  unfold step Path.step
  split_ifs with hidle hparent hdowns
  · rfl
  · rw [lead, lead, hdowns, List.append_nil, List.append_nil, List.dropLast_eq_take, List.length_take, List.take_take]
    dsimp only
    congr 1
    omega
  · rw [lead, lead, List.dropLast_append_of_ne_nil hdowns]
  · rw [lead, lead, List.append_assoc]

theorem lead_foldl (w : Way) (p : Place) (names : List (List Char)) :
    (names.foldl step w).lead p = names.foldl Path.step (w.lead p) := by
  induction names generalizing w with
  | nil => rfl
  | cons name names ih => rw [List.foldl_cons, List.foldl_cons, ih, lead_step]

theorem lead_start (p : Place) : lead {} p = p := by simp [lead]

/-- A way stays inside a place exactly if it returns to it. -/
theorem prefix_lead_iff (w : Way) (p : Place) : p <+: w.lead p ↔ w.Returns p := by
  have h : p.take (p.length - w.ups) ++ p.drop (p.length - w.ups) <+: p.take (p.length - w.ups) ++ w.downs ↔
      p.drop (p.length - w.ups) <+: w.downs := List.prefix_append_right_inj _
  rwa [List.take_append_drop] at h

end Way

def way (cs : List Char) : Way := (segments cs).foldl Way.step {}

theorem foldl_step (p : Place) (cs : List Char) : (segments cs).foldl step p = (way cs).lead p := by
  rw [way, Way.lead_foldl, Way.lead_start]

theorem place_of_isAbsolute (home : Place) {cs : List Char} (h : isAbsolute cs = true) :
    place home cs = (way cs).lead [] := by
  rw [place, if_pos h, foldl_step]

theorem place_of_relative (home : Place) {cs : List Char} (h : ¬ isAbsolute cs = true) :
    place home cs = (way cs).lead home := by
  rw [place, if_neg h, foldl_step]

theorem place_append_slash (home : Place) (front cs : List Char) :
    place home (front ++ '/' :: cs) = (way cs).lead (place home (front ++ ['/'])) := by
  have habsolute : isAbsolute (front ++ '/' :: cs) = isAbsolute (front ++ ['/']) := by
    cases front <;> rfl
  simp only [place, habsolute, segments, Text.stretches_append (p := (· = '/')) (c := '/') (by rfl),
    List.foldl_append, ← foldl_step]
  rfl

theorem place_slash (home : Place) {front : List Char} (hfront : front ≠ []) :
    place home (front ++ ['/']) = place home front := by
  obtain ⟨c, cs, rfl⟩ := List.exists_cons_of_ne_nil hfront
  have habsolute : isAbsolute (c :: cs ++ ['/']) = isAbsolute (c :: cs) := rfl
  rw [place, habsolute, segments, Text.stretches_append (by rfl), List.foldl_append]
  rfl

theorem place_joinChars (home : Place) (base : List Char) {cs : List Char} (h : ¬ isAbsolute cs = true) :
    place home (joinChars base cs) = (way cs).lead (place home base) := by
  rw [joinChars, if_neg h]
  split_ifs with hbase
  · rcases hbase with rfl | hslash
    · rw [List.nil_append, place_of_relative home h]
      rfl
    · obtain ⟨front, rfl⟩ := List.getLast?_eq_some_iff.1 hslash
      rw [List.append_assoc, List.singleton_append, place_append_slash]
  · obtain ⟨hne, -⟩ := not_or.1 hbase
    rw [place_append_slash, place_slash home hne]

end Path

namespace Disk

theorem walk_eq_foldl {d : Disk} {p q : Place} {names : List (List Char)} (h : d.walk p names = .ok q) :
    q = names.foldl Path.step p := by
  induction names generalizing p with
  | nil => exact (Except.ok.inj h).symm
  | cons name names ih =>
    obtain ⟨-, hrest⟩ := walk_cons_ok_iff.1 h
    rw [List.foldl_cons, Path.step]
    split_ifs at hrest ⊢ <;> exact ih hrest

/-- A disk resolves a path to the place that it spells, or not at all. -/
theorem place_of_resolve {d : Disk} {path : String} {p : Place} (h : d.resolve path = .ok p) :
    p = Path.place d.home path.toList :=
  walk_eq_foldl (resolve_ok_iff.1 h).2.2

end Disk

/-- A path lies in a directory, or is that directory, once both are resolved by their spelling. -/
def Inside (home : Place) (base path : String) : Prop :=
  Path.place home base.toList <+: Path.place home path.toList

instance (home : Place) (base path : String) : Decidable (Inside home base path) :=
  inferInstanceAs (Decidable (_ <+: _))

theorem inside_join_iff (home : Place) (base path : String) : Inside home base (Path.join base path) ↔
    if Path.isAbsolute path.toList then Path.place home base.toList <+: (Path.way path.toList).lead []
    else (Path.way path.toList).Returns (Path.place home base.toList) := by
  rw [Inside, Path.join, String.toList_ofList]
  split_ifs with habsolute
  · rw [Path.joinChars, if_pos habsolute, Path.place_of_isAbsolute home habsolute]
  · rw [Path.place_joinChars home base.toList habsolute, Path.Way.prefix_lead_iff]

theorem isAbsolute_relative (path : String) : ¬ Path.isAbsolute (Path.relative path).toList = true := by
  rw [Path.relative, String.toList_ofList, Path.isAbsolute, decide_eq_true_iff]
  intro hhead
  have hfirst := List.head?_dropWhile_not (fun c : Char => decide (c = '/')) (Path.dropHere (Text.trimChars path.toList))
  rw [hhead] at hfirst
  exact absurd hfirst (by decide)

/-- A document lies inside the directory of the documents exactly if its path returns to it. So does the marker of a
story inside the directory of the markers, unless the name of the story starts at the root: then it lies where that
name says. Whatever is read or written lies there. -/
theorem contained_iff_returns (d : Disk) (base : String) :
    (∀ path, Inside d.home base (documentPath base path) ↔
      (Path.way (Path.relative path).toList).Returns (Path.place d.home base.toList)) ∧
    (∀ story : StoryId, Inside d.home base (markerPath base story) ↔
      let name := (story.text ++ ".position.json").toList
      if Path.isAbsolute name then Path.place d.home base.toList <+: (Path.way name).lead []
      else (Path.way name).Returns (Path.place d.home base.toList)) ∧
    ∀ path p, d.resolve path = .ok p → p = Path.place d.home path.toList := by
  refine ⟨fun path => ?_, fun story => inside_join_iff d.home base _, fun path p => Disk.place_of_resolve⟩
  rw [documentPath, inside_join_iff, if_neg (isAbsolute_relative path)]

/-- A path that leaves the directory may come back to it. -/
example : Inside [] "content" (documentPath "content" "./maps/../../content/hall.json") := by decide +kernel

/-- A disk with the directories of documents and markers, and a file beside them. -/
def sideBySide : Disk where
  home := [['w']]
  nodes := [
    ([['w']], .directory),
    ([['w'], "content".toList], .directory),
    ([['w'], "saves".toList], .directory),
    ([['w'], "secret.json".toList], .file (.text "1"))]

/-- A document is read from beside the directory of the documents, and markers are written beside that of the markers
and far away from it. -/
theorem files_outside_their_directories :
    ¬ Inside sideBySide.home "content" (documentPath "content" "../secret.json") ∧
    (sideBySide.readText (documentPath "content" "../secret.json")).toOption = some "1" ∧
    ¬ Inside sideBySide.home "saves" (markerPath "saves" ⟨"../a"⟩) ∧
    (savePlace ⟨sideBySide, .files "content", .files "saves"⟩ ⟨"../a"⟩ ⟨"S1"⟩).2.disk.node?
      [['w'], "a.position.json".toList] = some (.file (.text (Marker.text ⟨⟨"../a"⟩, ⟨"S1"⟩⟩))) ∧
    ¬ Inside sideBySide.home "saves" (markerPath "saves" ⟨"/a"⟩) ∧
    (savePlace ⟨sideBySide, .files "content", .files "saves"⟩ ⟨"/a"⟩ ⟨"S1"⟩).2.disk.node?
      ["a.position.json".toList] = some (.file (.text (Marker.text ⟨⟨"/a"⟩, ⟨"S1"⟩⟩))) := by
  decide +kernel

end Gamebook.Outside
