import Gamebook.Proofs.Storybook.Steps

/-! Where the graph of a story comes from, told by what the outside may answer. A catalog that is not
loaded yet is read from its document, and the document of a story from where the catalog says. If the
documents do not change, a story has just one graph: `storyGraph?`. -/
namespace Gamebook

open Story (Graph)
open Storybook (usable? filled?)

namespace Table

variable {κ α : Type} [DecidableEq κ]

theorem mem_keys_foldl_put {entries : List (κ × α)} {t : Table κ α} {k : κ}
    (h : k ∈ keys (entries.foldl (fun t e => t.put e.1 e.2) t)) :
    k ∈ t.keys ∨ k ∈ entries.map Prod.fst := by
  induction entries generalizing t with
  | nil => exact .inl h
  | cons e entries ih =>
    rcases ih h with h | h
    · rw [keys_put] at h
      split at h
      · exact .inl h
      · rcases List.mem_append.1 h with h | h
        · exact .inl h
        · exact .inr (List.mem_cons.2 (.inl (List.mem_singleton.1 h)))
    · exact .inr (List.mem_cons_of_mem _ h)

theorem get?_ofList_eq_none {entries : List (κ × α)} {k : κ} (h : k ∉ entries.map Prod.fst) :
    (ofList entries).get? k = none := by
  rw [get?_eq_none_iff]
  intro hk
  rcases mem_keys_foldl_put hk with hk | hk
  · cases hk
  · exact h hk

end Table

namespace Catalog

theorem locator?_story {pack v : Json.Value} {l : Locator} (h : locator? pack v = some l) :
    l.story.text ≠ "" := by
  obtain ⟨id, hid, hl⟩ := Option.bind_eq_some_iff.1 h
  obtain rfl := Option.some.inj hl
  unfold Text.trimmed? at hid
  split at hid
  · cases hid
  · rename_i hblank
    obtain rfl := Option.some.inj hid
    exact fun he => hblank ((Text.trim_eq_empty_iff _).1 he)

/-- No document lists a story without a name. -/
theorem index_blank (doc : Json.Value) {story : StoryId} (h : Text.blank story.text = true) :
    (index doc).get? ⟨Text.trim story.text⟩ = none := by
  rw [(Text.trim_eq_empty_iff _).2 h]
  refine Table.get?_ofList_eq_none fun hmem => ?_
  simp only [List.map_map, List.mem_map, Function.comp_apply] at hmem
  obtain ⟨l, hl, hstory⟩ := hmem
  obtain ⟨pack, -, hl⟩ := List.mem_flatMap.1 hl
  obtain ⟨v, -, hl⟩ := List.mem_filterMap.1 hl
  refine locator?_story hl ?_
  rw [hstory]

variable (answers : (r : Request) → r.Reply → Prop) (first : Catalog)

/-- The catalogs of a run that begins with the first one. -/
inductive From : Catalog → Prop
  | first : From first
  | loaded {path : String} {doc : Json.Value} : first = .packs path none →
      answers (.document path) (.ok doc) → From (.packs path (some (index doc)))

inductive Finds (story : StoryId) : Option Locator → Prop
  | known : (∀ path, first ≠ .packs path none) → Finds story (first.lookUp? story)
  | blank {path : String} : first = .packs path none → Text.blank story.text = true → Finds story none
  | failed {path : String} {cause : SourceFault} : first = .packs path none →
      answers (.document path) (.error cause) → Finds story none
  | loaded {path : String} {doc : Json.Value} : first = .packs path none →
      answers (.document path) (.ok doc) →
      Finds story ((packs path (some (index doc))).lookUp? story)

variable {answers first}

theorem finds_of_found {catalog : Catalog} {story : StoryId} {locator : Option Locator}
    (h : From answers first catalog) (hfound : catalog.found story = .done locator) :
    Finds answers first story locator := by
  cases h with
  | first =>
    unfold found at hfound
    split at hfound
    · split at hfound <;> cases hfound
      rename_i hblank
      exact .blank rfl hblank
    · rename_i hknown
      cases hfound
      exact .known hknown
  | loaded hpath hdoc =>
    cases hfound
    exact .loaded hpath hdoc

theorem unloaded_of_found {catalog : Catalog} {story : StoryId} {w : Locating}
    (h : From answers first catalog) (hfound : catalog.found story = .waiting w) :
    first = .packs w.path none ∧ w.story = story := by
  cases h with
  | first =>
    unfold found at hfound
    split at hfound
    · split at hfound <;> cases hfound
      exact ⟨rfl, rfl⟩
    · cases hfound
  | loaded => cases hfound

theorem finds_resume (h : From answers first catalog) {w : Locating} (hpath : first = .packs w.path none)
    {reply : w.request.Reply} (hreply : answers w.request reply) :
    From answers first (w.resume reply catalog).state ∧
      Finds answers first w.story (w.resume reply catalog).value := by
  cases reply with
  | error cause => exact ⟨h, .failed hpath hreply⟩
  | ok doc => exact ⟨.loaded hpath hreply, .loaded hpath hreply⟩

theorem From.preloading (h : From answers first catalog) {w : Preloading}
    (hw : (preload catalog).value = .waiting w) : first = .packs w.path none := by
  cases h with
  | first =>
    match first with
    | .fixed _ => cases hw
    | .packs _ (some _) => cases hw
    | .packs _ none =>
      cases hw
      rfl
  | loaded => cases hw

theorem From.preloaded (h : From answers first catalog) {w : Preloading}
    (hpath : first = .packs w.path none) {reply : w.request.Reply} (hreply : answers w.request reply) :
    From answers first (w.resume reply catalog).state := by
  cases reply with
  | error cause => exact h
  | ok doc => exact .loaded hpath hreply

end Catalog

section Graphs

variable (answers : (r : Request) → r.Reply → Prop) (c : StorySettings) (first : Catalog)

inductive Yields (story : StoryId) : Option Graph → Prop
  | told {locator : Option Locator} {l : Locator} {doc : Json.Value} :
      first.Finds answers story locator → usable? locator = some l →
      answers (.document l.storyUrl) (.ok doc) → Yields story (some (Graph.ofDocument c doc))
  | failed {locator : Option Locator} {l : Locator} {cause : SourceFault} :
      first.Finds answers story locator → usable? locator = some l →
      answers (.document l.storyUrl) (.error cause) → Yields story none

/-- The graph that a story is shown with; none if it cannot be shown. -/
inductive Ends (story : StoryId) : Option Graph → Prop
  | missing {locator : Option Locator} : first.Finds answers story locator → usable? locator = none →
      Ends story none
  | read {graph : Option Graph} : Yields answers c first story graph → Ends story (filled? graph)

structure Sourced (b : Storybook) : Prop where
  catalog : first.From answers b.catalog
  graphs : ∀ {url : String} {graph : Graph}, b.graphs.get? url = some graph →
    ∃ doc, answers (.document url) (.ok doc) ∧ graph = Graph.ofDocument c doc

theorem sourced_first : Sourced answers c first { catalog := first } := ⟨.first, fun h => by cases h⟩

end Graphs

/-- The outside answers each path with one document; what it does with saved places is left open. -/
def Fixed (docs : String → Except SourceFault Json.Value) : (r : Request) → r.Reply → Prop
  | .document path, reply => reply = docs path
  | .place _, _ => True
  | .savePlace _ _, _ => True
  | .turn, _ => True

/-- An outside that answers with those documents and keeps no places. -/
def sourceOf (docs : String → Except SourceFault Json.Value) : (r : Request) → r.Reply
  | .document path => docs path
  | .place _ => .ok none
  | .savePlace _ _ => .ok ()
  | .turn => ()

theorem fixed_sourceOf (docs : String → Except SourceFault Json.Value) (r : Request) :
    Fixed docs r (sourceOf docs r) := by
  cases r <;> trivial

section Fixed

variable (docs : String → Except SourceFault Json.Value) (c : StorySettings) (first : Catalog)

def Catalog.locate? (story : StoryId) : Option Locator :=
  match first with
  | .packs path none =>
    match docs path with
    | .ok doc => (Catalog.packs path (some (index doc))).lookUp? story
    | .error _ => none
  | catalog => catalog.lookUp? story

/-- The graph of a story that can be found and read and has scenes. -/
def storyGraph? (story : StoryId) : Option Graph :=
  match usable? (first.locate? docs story) with
  | some l => filled? ((docs l.storyUrl).toOption.map (Graph.ofDocument c))
  | none => none

variable {docs c first} {story : StoryId}

theorem Catalog.Finds.eq_locate? {locator : Option Locator} (h : first.Finds (Fixed docs) story locator) :
    locator = first.locate? docs story := by
  cases h with
  | known hknown =>
    unfold locate?
    split
    · exact absurd rfl (hknown _)
    · rfl
  | blank hpath hblank =>
    subst hpath
    simp only [locate?]
    split
    · exact (index_blank _ hblank).symm
    · rfl
  | failed hpath hreply =>
    subst hpath
    have hreply : Except.error _ = docs _ := hreply
    simp only [locate?, ← hreply]
  | loaded hpath hreply =>
    subst hpath
    have hreply : Except.ok _ = docs _ := hreply
    simp only [locate?, ← hreply]

theorem Ends.eq_storyGraph? {graph : Option Graph} (h : Ends (Fixed docs) c first story graph) :
    graph = storyGraph? docs c first story := by
  cases h with
  | missing hfinds hnone =>
    rw [hfinds.eq_locate?] at hnone
    simp only [storyGraph?, hnone]
  | read hyields =>
    cases hyields with
    | told hfinds hsome hreply =>
      rw [hfinds.eq_locate?] at hsome
      have hreply : Except.ok _ = docs _ := hreply
      simp only [storyGraph?, hsome, ← hreply, Except.toOption, Option.map_some]
    | failed hfinds hsome hreply =>
      rw [hfinds.eq_locate?] at hsome
      have hreply : Except.error _ = docs _ := hreply
      simp only [storyGraph?, hsome, ← hreply, Except.toOption, Option.map_none]

end Fixed
end Gamebook
