import Gamebook.Proofs.Catalog.Entries
import Gamebook.Proofs.Concluding
import Gamebook.Proofs.Storybook.Steps

/-! Stories whose entry names no document. Where the entry has no path, or an empty one, the story is turned away;
where the path is nothing but white space, the story is looked for at the root of its pack, and turned away only if
that says nothing either: `turned_away_unless_rooted`. -/
namespace Gamebook

theorem Text.isBlank_of_trimChars {c : Char} {cs ds : List Char} (h : trimChars cs = c :: ds) :
    isBlank c = false := by
  unfold trimChars at h
  cases hstart : trimStart cs with
  | nil =>
    rw [hstart] at h
    cases h
  | cons d es =>
    have hd := trimStart_head hstart
    rw [hstart, trimEnd, hd] at h
    cases htrim : trimEnd es with
    | nil =>
      rw [htrim] at h
      cases h
      exact hd
    | cons e rest =>
      rw [htrim] at h
      cases h
      exact hd

namespace Catalog

open Json (Value)

theorem blank_stem {root : String} (h : stem root ≠ []) : Text.blank (String.ofList (stem root)) = false := by
  obtain ⟨c, cs, hstem⟩ := List.exists_cons_of_ne_nil h
  obtain ⟨n, hcut⟩ := (stem_iff.2 hstem).cut
  have hc : Text.isBlank c = false := Text.isBlank_of_trimChars hcut
  rw [hstem, Text.blank, String.toList_ofList, List.all_cons, hc]
  rfl

namespace Entry

/-- The path of the document is missing, no text, or nothing but white space. -/
def NamesNothing (e : Entry) : Prop :=
  ∀ path, e.story.field? "storyJson" = some (.string path) → Text.blank path = true

/-- There is no path at all, or an empty one, or else the root of the pack says nothing. -/
def Bare (e : Entry) : Prop :=
  (∀ path, e.story.field? "storyJson" = some (.string path) → path = "") ∨ Stem (textField e.pack "root") []

theorem textField_eq_iff {v : Value} {name : String} {P : String → Prop} (hempty : P "") :
    P (textField v name) ↔ ∀ s, v.field? name = some (.string s) → P s := by
  unfold textField
  cases v.field? name with
  | none => simpa using hempty
  | some x => cases x <;> simp [Value.text?, hempty]

theorem namesNothing_iff {e : Entry} : e.NamesNothing ↔ Text.blank (textField e.story "storyJson") = true :=
  (textField_eq_iff (P := fun s => Text.blank s = true) rfl).symm

theorem bare_iff {e : Entry} :
    e.Bare ↔ textField e.story "storyJson" = "" ∨ stem (textField e.pack "root") = [] :=
  or_congr (textField_eq_iff (P := fun s => s = "") rfl).symm stem_iff

/-- An entry that names nothing leads to the root of its pack, unless it is bare. -/
theorem storyUrl_of_namesNothing {e : Entry} (h : e.NamesNothing) : e.locator.storyUrl =
    if textField e.story "storyJson" = "" then "" else String.ofList (stem (textField e.pack "root")) := by
  have hrest : rest (textField e.story "storyJson") = [] := by
    have hblank : Text.trimChars (textField e.story "storyJson").toList = [] :=
      (Text.trimChars_eq_nil_iff _).2 (namesNothing_iff.1 h)
    rw [rest, hblank]
    rfl
  simp only [locator, urlField, joinPaths_eq, hrest, if_pos]
  split_ifs with hpath hstem
  · rfl
  · rw [hstem]
  · rfl

end Entry
end Catalog

namespace Storybook

open Catalog
open Json (Value)

variable {c : StorySettings} {path : String} {doc : Value} {v : Visit} {e : Entry}

variable (c path doc v) in
/-- How a mount goes on once the catalog is known to be this document: at once if it was known before, and otherwise
after a request for the document of the catalog, and none before it. What others do meanwhile makes no difference. -/
structure GoesOn (next : Storybook → Progress Mounting MountOutcome) : Prop where
  known : ∀ s, s.part.catalog = .packs path (some (index doc)) → (mount v s).value = next s.part
  asks : ∀ s, s.part.catalog = .packs path none → (mount v s).value = .waiting (.locating v ⟨v.story, path⟩)
  came : ∀ s, ((Mounting.locating v ⟨v.story, path⟩).resume c (.ok doc) s).value = next s.part

def turnedAway (_ : Storybook) : Progress Mounting MountOutcome := .done .notInCatalog

/-- The mount asks for a story document, unless its graph is known. -/
def opening (v : Visit) (url : String) (b : Storybook) : Progress Mounting MountOutcome :=
  match b.graphs.get? url with
  | some graph => .waiting (.recalling v (some graph))
  | none => .waiting (.opening v url)

theorem located_value (v : Visit) (l : Locator) (s : Staged Storybook) : (located v (some l) s).value =
    if Text.blank l.storyUrl then turnedAway s.part else opening v l.storyUrl s.part := by
  unfold located
  cases hblank : Text.blank l.storyUrl with
  | true =>
    have hnone : (some l).filter (fun l => !Text.blank l.storyUrl) = none := by simp [hblank]
    rw [hnone]
    rfl
  | false =>
    have hsome : (some l).filter (fun l => !Text.blank l.storyUrl) = some l := by simp [hblank]
    rw [hsome]
    simp only [Act.bind_get, opening]
    cases s.part.graphs.get? l.storyUrl <;> rfl

theorem goesOn_of_selects (h : Catalog.Selects doc v.story e) : GoesOn c path doc v fun b =>
    if Text.blank e.locator.storyUrl then turnedAway b else opening v e.locator.storyUrl b where
  known s hs := by
    have hfound : s.part.catalog.found v.story = .done (some e.locator) := by
      rw [hs]
      exact congrArg Progress.done (get?_index_of_selects h)
    rw [mount_eq, hfound]
    exact located_value v e.locator s
  asks s hs := by
    have hname : ¬ Text.blank v.story.text = true := fun hblank =>
      h.named ((Text.trim_eq_empty_iff _).2 hblank)
    rw [mount_eq, hs]
    simp only [Catalog.found, if_neg hname]
  came s := by
    have hlocator : (Locating.resume ⟨v.story, path⟩ (.ok doc) s.part.catalog).value = some e.locator :=
      get?_index_of_selects h
    simp only [Mounting.resume, Staged.onPart, Act.within_apply, Act.bind_apply, hlocator]
    exact located_value v e.locator _

/-- A story whose entry names no document is turned away, and nothing but the catalog is asked for, exactly if the
entry is bare; for any other the mount goes on with the document at the root of the pack. -/
theorem turned_away_unless_rooted (c : StorySettings) (path : String) (h : Catalog.Selects doc v.story e)
    (hnothing : e.NamesNothing) :
    (e.Bare → GoesOn c path doc v turnedAway) ∧
    (¬ e.Bare → ∃ root, Stem (textField e.pack "root") root ∧ root ≠ [] ∧
      GoesOn c path doc v (opening v (String.ofList root))) := by
  have hgoes : GoesOn c path doc v fun b =>
      if Text.blank e.locator.storyUrl then turnedAway b else opening v e.locator.storyUrl b := goesOn_of_selects h
  have hurl := Entry.storyUrl_of_namesNothing hnothing
  rw [Entry.bare_iff]
  constructor
  · intro hbare
    have hempty : Text.blank e.locator.storyUrl = true := by
      rw [hurl]
      split_ifs with hpath
      · rfl
      · rw [hbare.resolve_left hpath]
        rfl
    simpa only [hempty, if_true] using hgoes
  · intro hrooted
    obtain ⟨hpath, hroot⟩ := not_or.1 hrooted
    rw [if_neg hpath] at hurl
    refine ⟨stem (textField e.pack "root"), stem_iff.2 rfl, hroot, ?_⟩
    simpa only [hurl, blank_stem hroot, Bool.false_eq_true, if_false] using hgoes

theorem completes_of_waiting {p : Progress Mounting MountOutcome} {w : Mounting} {s t : Staged Storybook}
    {asked : List Progress.Replied} {outcome : MountOutcome} (hp : p = .waiting w) (reply : w.request.Reply)
    (h : Progress.Completes Mounting.request (Mounting.resume c) (w.resume c reply s).value
      (w.resume c reply s).state asked t outcome) :
    Progress.Completes Mounting.request (Mounting.resume c) p s (⟨w.request, reply⟩ :: asked) t outcome :=
  hp ▸ .waiting reply h

/-- A story entry with a path of white space, in a pack with this root. -/
def spacedEntry (root : String) : Entry :=
  let story : Value := .object [("id", .string "a"), ("storyJson", .string " ")]
  ⟨.object [("root", .string root), ("stories", .array [story])], story⟩

def spaced (root : String) : Value := .object [("packs", .array [(spacedEntry root).pack])]

theorem selects_spaced (root : String) : Catalog.Selects (spaced root) ⟨"a"⟩ (spacedEntry root) :=
  ⟨by decide, [], [], rfl, rfl, by simp⟩

theorem namesNothing_spaced (root : String) : (spacedEntry root).NamesNothing := by
  intro path hpath
  obtain rfl : " " = path := by simpa [spacedEntry, Value.field?, Value.fields?, Table.get?] using hpath
  decide

def visitOfA : Visit := ⟨⟨"a"⟩, ⟨"story_a"⟩, 1⟩

theorem turned_away_unless_rooted_below_slashes :
    Catalog.Selects (spaced " // ") visitOfA.story (spacedEntry " // ") ∧ (spacedEntry " // ").NamesNothing ∧
      GoesOn {} "catalog.json" (spaced " // ") visitOfA turnedAway := by
  have hbare : (spacedEntry " // ").Bare := Entry.bare_iff.2 (.inr (by decide))
  exact ⟨selects_spaced _, namesNothing_spaced _,
    (turned_away_unless_rooted {} "catalog.json" (selects_spaced " // ") (namesNothing_spaced _)).1 hbare⟩

def onScreen : Staged Storybook :=
  ⟨(({} : Stage).beginNavigation).activate ⟨"story_a"⟩, { catalog := .packs "catalog.json" none }⟩

def oneScene : Value := .object [("start", .string "S1"), ("scenes", .object [("S1", .object [])])]

def afterMount : Made (Staged Storybook) (Progress Mounting MountOutcome) := mount visitOfA onScreen

def afterCatalog : Made (Staged Storybook) (Progress Mounting MountOutcome) :=
  (Mounting.locating visitOfA ⟨⟨"a"⟩, "catalog.json"⟩).resume {} (.ok (spaced "r")) afterMount.state

def afterStory : Made (Staged Storybook) (Progress Mounting MountOutcome) :=
  (Mounting.opening visitOfA "r").resume {} (.ok oneScene) afterCatalog.state

def afterPlace : Made (Staged Storybook) (Progress Mounting MountOutcome) :=
  (Mounting.recalling visitOfA (some (Story.Graph.ofDocument {} oneScene))).resume {} (.ok none) afterStory.state

def askedInTurn : List Progress.Replied :=
  [⟨.document "catalog.json", .ok (spaced "r")⟩, ⟨.document "r", .ok oneScene⟩, ⟨.place ⟨"a"⟩, .ok none⟩]

/-- A story of which the entry names nothing but white space is mounted with the document at the root of its pack. -/
theorem unnamed_story_opened_at_the_root :
    Catalog.Selects (spaced "r") visitOfA.story (spacedEntry "r") ∧ (spacedEntry "r").NamesNothing ∧
    onScreen.stage.isCurrent visitOfA.generation visitOfA.screen = true ∧
    Progress.Completes Mounting.request (Mounting.resume {}) (mount visitOfA onScreen).value
      (mount visitOfA onScreen).state askedInTurn afterPlace.state (.rendered ⟨"S1"⟩) ∧
    ¬ GoesOn {} "catalog.json" (spaced "r") visitOfA turnedAway := by
  have hmount : (mount visitOfA onScreen).value = .waiting (.locating visitOfA ⟨⟨"a"⟩, "catalog.json"⟩) := by
    decide +kernel
  have hcatalog : afterCatalog.value = .waiting (.opening visitOfA "r") := by decide +kernel
  have hstory : afterStory.value =
      .waiting (.recalling visitOfA (some (Story.Graph.ofDocument {} oneScene))) := by decide +kernel
  have hplace : afterPlace.value = .done (.rendered ⟨"S1"⟩) := by decide +kernel
  refine ⟨selects_spaced _, namesNothing_spaced _, by decide, ?_, fun haway => ?_⟩
  · refine completes_of_waiting hmount (.ok (spaced "r")) ?_
    refine completes_of_waiting hcatalog (.ok oneScene) ?_
    refine completes_of_waiting hstory (.ok none) ?_
    exact hplace ▸ .done _ _
  · have hcame := haway.came afterMount.state
    have hvalue : afterCatalog.value = .done .notInCatalog := hcame
    rw [hcatalog] at hvalue
    cases hvalue

end Storybook
end Gamebook
