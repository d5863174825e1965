import Gamebook.Catalog
import Gamebook.Proofs.Story.Declared
import Mathlib.Data.List.TakeWhile

/-! What a catalog document lists. Its story entries are read one after another into a table, each with the pack
that it stands in; what a story is found under is said here without the reader. A story is found under the last
entry of its name, at an address below the root of that entry's pack: `gives_iff`. -/
namespace Gamebook.Catalog

open Json (Value)

/-- What is left of a root without white space around it and slashes at its end. -/
structure Stem (root : String) (stem : List Char) : Prop where
  cut : ∃ n, Text.trimChars root.toList = stem ++ List.replicate n '/'
  last : stem.getLast? ≠ some '/'

/-- What is left of a path without white space around it and slashes at its start. -/
structure Rest (path : String) (rest : List Char) : Prop where
  cut : ∃ n, Text.trimChars path.toList = List.replicate n '/' ++ rest
  first : rest.head? ≠ some '/'

/-- Where the document of a path below a root is: with one slash between the two, if both say anything. -/
inductive Address (root path : String) : String → Prop
  | unnamed : path = "" → Address root path ""
  | joined {stem rest : List Char} : path ≠ "" → Stem root stem → Rest path rest → stem ≠ [] → rest ≠ [] →
      Address root path (String.ofList (stem ++ '/' :: rest))
  | rootless {rest : List Char} : path ≠ "" → Stem root [] → Rest path rest →
      Address root path (String.ofList rest)
  | pathless {stem : List Char} : path ≠ "" → Stem root stem → Rest path [] →
      Address root path (String.ofList stem)

def stem (root : String) : List Char := ((Text.trimChars root.toList).reverse.dropWhile isSlash).reverse

def rest (path : String) : List Char := (Text.trimChars path.toList).dropWhile isSlash

theorem isSlash_iff {c : Char} : isSlash c = true ↔ c = '/' := decide_eq_true_iff

/-- Slashes that were all taken off were slashes, and none is left where they stood. -/
theorem dropWhile_isSlash_eq_iff {cs ds : List Char} : cs.dropWhile isSlash = ds ↔
    (∃ n, cs = List.replicate n '/' ++ ds) ∧ ds.head? ≠ some '/' := by
  constructor
  · rintro rfl
    refine ⟨⟨(cs.takeWhile isSlash).length, ?_⟩, fun hhead => ?_⟩
    · have hslashes : cs.takeWhile isSlash = List.replicate (cs.takeWhile isSlash).length '/' :=
        List.eq_replicate_iff.2 ⟨rfl, fun c hc => isSlash_iff.1 (List.mem_takeWhile_imp hc)⟩
      rw [← hslashes, List.takeWhile_append_dropWhile]
    · have hfirst := List.head?_dropWhile_not isSlash cs
      rw [hhead] at hfirst
      exact absurd hfirst (by decide)
  · rintro ⟨⟨n, rfl⟩, hhead⟩
    rw [List.dropWhile_append_of_pos fun c hc => isSlash_iff.2 (List.eq_of_mem_replicate hc)]
    cases ds with
    | nil => rfl
    | cons d ds =>
      have hd : isSlash d = false := decide_eq_false fun h => hhead (h ▸ rfl)
      rw [List.dropWhile_cons, hd]
      rfl

theorem rest_iff {path : String} {cs : List Char} : Rest path cs ↔ rest path = cs :=
  ⟨fun h => dropWhile_isSlash_eq_iff.2 ⟨h.cut, h.first⟩, fun h =>
    have ⟨hcut, hfirst⟩ := dropWhile_isSlash_eq_iff.1 h
    ⟨hcut, hfirst⟩⟩

theorem stem_iff {root : String} {cs : List Char} : Stem root cs ↔ stem root = cs := by
  rw [stem, List.reverse_eq_iff, dropWhile_isSlash_eq_iff]
  have hcut (n : Nat) : (Text.trimChars root.toList).reverse = List.replicate n '/' ++ cs.reverse ↔
      Text.trimChars root.toList = cs ++ List.replicate n '/' := by
    rw [List.reverse_eq_iff, List.reverse_append, List.reverse_reverse, List.reverse_replicate]
  simp only [hcut, List.head?_reverse]
  exact ⟨fun h => ⟨h.cut, h.last⟩, fun h => ⟨h.1, h.2⟩⟩

theorem joinPaths_eq (root path : String) : joinPaths root path = String.ofList
    (if stem root = [] then rest path else if rest path = [] then stem root
      else stem root ++ '/' :: rest path) := rfl

theorem address_iff {root path url : String} :
    Address root path url ↔ (if path = "" then "" else joinPaths root path) = url := by
  rw [joinPaths_eq]
  constructor
  · intro h
    cases h with
    | unnamed hpath => rw [if_pos hpath]
    | joined hpath hstem hrest hstem' hrest' =>
      rw [if_neg hpath, stem_iff.1 hstem, rest_iff.1 hrest, if_neg hstem', if_neg hrest']
    | rootless hpath hstem hrest => rw [if_neg hpath, stem_iff.1 hstem, rest_iff.1 hrest, if_pos rfl]
    | pathless hpath hstem hrest =>
      rw [if_neg hpath, stem_iff.1 hstem, rest_iff.1 hrest, if_pos rfl]
      split
      · rename_i hnil
        rw [hnil]
      · rfl
  · rintro rfl
    have hstem : Stem root (stem root) := stem_iff.2 rfl
    have hrest : Rest path (rest path) := rest_iff.2 rfl
    split_ifs with hpath hnostem hnorest
    · exact .unnamed hpath
    · exact .rootless hpath (hnostem ▸ hstem) hrest
    · exact .pathless hpath hstem (hnorest ▸ hrest)
    · exact .joined hpath hstem hrest hnostem hnorest

structure Entry where
  pack : Value
  story : Value

namespace Entry

def name (e : Entry) : String := Text.trim (textField e.story "id")

/-- What an entry says of its story. -/
structure Describes (e : Entry) (l : Locator) : Prop where
  story : l.story = ⟨e.name⟩
  pack : l.pack = textField e.pack "packId"
  root : l.root = textField e.pack "root"
  storyUrl : Address (textField e.pack "root") (textField e.story "storyJson") l.storyUrl
  coverUrl : Address (textField e.pack "root") (textField e.story "cover") l.coverUrl

def locator (e : Entry) : Locator where
  story := ⟨e.name⟩
  pack := textField e.pack "packId"
  root := textField e.pack "root"
  storyUrl := urlField (textField e.pack "root") e.story "storyJson"
  coverUrl := urlField (textField e.pack "root") e.story "cover"

theorem describes_iff {e : Entry} {l : Locator} : e.Describes l ↔ e.locator = l := by
  constructor
  · intro h
    obtain ⟨story, pack, root, storyUrl, coverUrl⟩ := l
    simp only [locator, urlField, Locator.mk.injEq]
    exact ⟨h.story.symm, h.pack.symm, h.root.symm, address_iff.1 h.storyUrl, address_iff.1 h.coverUrl⟩
  · rintro rfl
    exact ⟨rfl, rfl, rfl, address_iff.2 rfl, address_iff.2 rfl⟩

theorem locator?_eq (pack v : Value) :
    locator? pack v = if (⟨pack, v⟩ : Entry).name = "" then none else some (⟨pack, v⟩ : Entry).locator := by
  simp only [locator?, Text.trimmed?, name, Text.trim_eq_empty_iff]
  split <;> rfl

end Entry

def entries (doc : Value) : List Entry :=
  (listField doc "packs").flatMap fun pack => (listField pack "stories").map fun v => ⟨pack, v⟩

theorem locators_eq (doc : Value) : locators doc =
    (entries doc).filterMap fun e => if e.name = "" then none else some e.locator := by
  simp only [locators, entries, List.filterMap_flatMap, List.filterMap_map]
  refine List.flatMap_congr fun pack _ => List.filterMap_congr fun v _ => ?_
  exact Entry.locator?_eq pack v

/-- The entry that a story is found under: no later one has the name of the story, which is not blank. -/
structure Selects (doc : Value) (story : StoryId) (e : Entry) : Prop where
  named : Text.trim story.text ≠ ""
  last : ∃ before after, entries doc = before ++ e :: after ∧ e.name = Text.trim story.text ∧
    ∀ e' ∈ after, e'.name ≠ Text.trim story.text

/-- What a document has of a story: the last entry of its trimmed name, if any entry has that name. -/
inductive Gives (doc : Value) (story : StoryId) : Option Locator → Prop
  | nothing : Text.trim story.text = "" ∨ (∀ e ∈ entries doc, e.name ≠ Text.trim story.text) →
      Gives doc story none
  | entry {e : Entry} {l : Locator} : Selects doc story e → e.Describes l → Gives doc story (some l)

theorem last?_locators {name : String} (hname : name ≠ "") (es : List Entry) :
    Table.last? ((es.filterMap fun e => if e.name = "" then none else some e.locator).map fun l => (l.story, l))
      ⟨name⟩ = (es.reverse.find? fun e => e.name = name).map Entry.locator := by
  induction es using List.reverseRecOn with
  | nil => rfl
  | append_singleton es e ih =>
    rw [List.filterMap_append, List.map_append, Table.last?_append, ih, List.reverse_append,
      List.reverse_singleton, List.singleton_append, List.find?_cons]
    by_cases hblank : e.name = ""
    · have hother : ¬ e.name = name := fun h => hname (h ▸ hblank)
      simp [hblank, hname.symm, Table.last?]
    · have hsingle : [e].filterMap (fun e => if e.name = "" then none else some e.locator) = [e.locator] := by
        simp [hblank]
      have hkey : e.locator.story = ⟨name⟩ ↔ e.name = name := by simp [Entry.locator]
      rw [hsingle, List.map_singleton, Table.last?_singleton]
      by_cases hsame : e.name = name <;> simp [hkey, hsame]

theorem get?_index {doc : Value} {name : String} (hname : name ≠ "") :
    (index doc).get? ⟨name⟩ = ((entries doc).reverse.find? fun e => e.name = name).map Entry.locator := by
  rw [index, Table.get?_ofList, locators_eq, last?_locators hname]

theorem get?_index_of_selects {doc : Value} {story : StoryId} {e : Entry} (h : Selects doc story e) :
    (index doc).get? ⟨Text.trim story.text⟩ = some e.locator := by
  obtain ⟨before, after, hentries, hname, hafter⟩ := h.last
  rw [get?_index h.named, hentries, List.reverse_append, List.reverse_cons, List.append_assoc, List.find?_append]
  have hlater : after.reverse.find? (fun e => e.name = Text.trim story.text) = none :=
    List.find?_eq_none.2 fun e' he' => by simpa using hafter e' (List.mem_reverse.1 he')
  simp [hlater, hname]

variable {doc : Value} {story : StoryId}

theorem get?_index_empty : (index doc).get? ⟨""⟩ = none := by
  rw [index, Table.get?_ofList, Table.last?_eq_none_iff, locators_eq]
  simp only [List.map_map, List.mem_map, List.mem_filterMap, Function.comp_apply]
  rintro ⟨l, ⟨e, -, hl⟩, hstory⟩
  split at hl
  · cases hl
  · rename_i hname
    obtain rfl := Option.some.inj hl
    exact hname (StoryId.mk.inj hstory)

theorem exists_selects (hname : Text.trim story.text ≠ "") {e : Entry}
    (h : ((entries doc).reverse.find? fun e => e.name = Text.trim story.text) = some e) :
    Selects doc story e := by
  obtain ⟨hsame, after, before, hentries, hafter⟩ := List.find?_eq_some_iff_append.1 h
  refine ⟨hname, before.reverse, after.reverse, ?_, of_decide_eq_true hsame, fun e' he' => ?_⟩
  · rw [List.reverse_eq_iff] at hentries
    simp [hentries]
  · simpa using hafter e' (List.mem_reverse.1 he')

/-- What the table of a document holds for a story is what the document gives, and nothing else is. -/
theorem gives_iff {locator : Option Locator} :
    Gives doc story locator ↔ (index doc).get? ⟨Text.trim story.text⟩ = locator := by
  constructor
  · intro h
    cases h with
    | nothing hnone =>
      by_cases hname : Text.trim story.text = ""
      · rw [hname, get?_index_empty]
      · rw [get?_index hname, List.find?_eq_none.2]
        · rfl
        · intro e he
          simpa using hnone.resolve_left hname e (List.mem_reverse.1 he)
    | entry hselects hdescribes =>
      rw [get?_index_of_selects hselects, Entry.describes_iff.1 hdescribes]
  · rintro rfl
    by_cases hname : Text.trim story.text = ""
    · rw [hname, get?_index_empty]
      exact .nothing (.inl hname)
    · rw [get?_index hname]
      cases hfind : (entries doc).reverse.find? fun e => e.name = Text.trim story.text with
      | none =>
        refine .nothing (.inr fun e he => ?_)
        simpa using List.find?_eq_none.1 hfind e (List.mem_reverse.2 he)
      | some e => exact .entry (exists_selects hname hfind) (Entry.describes_iff.2 rfl)

end Gamebook.Catalog
