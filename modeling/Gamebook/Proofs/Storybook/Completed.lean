import Gamebook.Proofs.Concluding
import Gamebook.Proofs.Stage.Bare
import Gamebook.Proofs.Storybook.Sources
import Gamebook.Proofs.Storybook.Shown

/-! What a whole visit does, from the change that is told to the scene that is shown, where nothing else happens
between the two: `concludes_enter`. What was looked for and read before saves requests, and nothing else: the graph
of a story is the same either way, `told?_learned`. -/
namespace Gamebook

open Story (Graph)

namespace Catalog

variable (docs : String → Except SourceFault Json.Value)

def searched (catalog : Catalog) (story : StoryId) : Catalog :=
  match catalog.found story with
  | .done _ => catalog
  | .waiting w => (w.resume (docs w.path) catalog).state

variable {docs} {catalog : Catalog} {story : StoryId}

theorem locate?_of_found {locator : Option Locator} (h : catalog.found story = .done locator) :
    catalog.locate? docs story = locator := by
  match catalog with
  | .fixed _ =>
    cases h
    rfl
  | .packs _ (some _) =>
    cases h
    rfl
  | .packs path none =>
    simp only [found] at h
    split at h
    · rename_i hblank
      cases h
      simp only [locate?]
      split
      · exact index_blank _ hblank
      · rfl
    · cases h

variable (docs) in
theorem locate?_of_waiting {w : Locating} (h : catalog.found story = .waiting w) :
    (w.resume (docs w.path) catalog).value = catalog.locate? docs story := by
  match catalog with
  | .fixed _ => cases h
  | .packs _ (some _) => cases h
  | .packs path none =>
    simp only [found] at h
    split at h
    · cases h
    · cases h
      simp only [locate?]
      cases docs path <;> rfl

/-- A catalog that was searched is as before, or it is loaded by now. -/
theorem searched_eq (docs : String → Except SourceFault Json.Value) (catalog : Catalog) (story : StoryId) :
    catalog.searched docs story = catalog ∨ ∃ path doc, catalog = .packs path none ∧ docs path = .ok doc ∧
      catalog.searched docs story = .packs path (some (index doc)) := by
  unfold searched
  cases hfound : catalog.found story with
  | done => exact .inl rfl
  | waiting w =>
    have hfirst : From (Fixed docs) catalog catalog := .first
    have hpath := (unloaded_of_found hfirst hfound).1
    dsimp only
    cases hdoc : docs w.path with
    | error cause => exact .inl rfl
    | ok doc => exact .inr ⟨w.path, doc, hpath, hdoc, rfl⟩

/-- Where stories are found does not depend on what was looked for before. -/
@[simp] theorem locate?_searched (other : StoryId) :
    (catalog.searched docs story).locate? docs other = catalog.locate? docs other := by
  rcases searched_eq docs catalog story with h | ⟨path, doc, rfl, hdoc, h⟩
  · rw [h]
  · rw [h]
    simp only [locate?, hdoc]

@[simp] theorem searched_searched :
    (catalog.searched docs story).searched docs story = catalog.searched docs story := by
  rcases searched_eq docs catalog story with h | ⟨path, doc, rfl, -, h⟩
  · rw [h, h]
  · rw [h]
    rfl

end Catalog

namespace Storybook

section Learning

variable (docs : String → Except SourceFault Json.Value) (c : StorySettings)

/-- The graph under a path: the one that is known, or else the one that its document holds. -/
def graphAt? (b : Storybook) (url : String) : Option Graph :=
  (b.graphs.get? url).or ((docs url).toOption.map (Graph.ofDocument c))

/-- The graph of a story that can be found and read and has scenes. -/
def told? (b : Storybook) (story : StoryId) : Option Graph :=
  (usable? (b.catalog.locate? docs story)).bind fun l => filled? (b.graphAt? docs c l.storyUrl)

def read (b : Storybook) (url : String) : Storybook :=
  match b.graphs.get? url, docs url with
  | none, .ok doc => { b with graphs := b.graphs.put url (Graph.ofDocument c doc) }
  | _, _ => b

/-- A storybook that has looked for a story and read it, as far as it can be had. -/
def learned (b : Storybook) (story : StoryId) : Storybook :=
  match usable? (b.catalog.locate? docs story) with
  | some l => ({ b with catalog := b.catalog.searched docs story }).read docs c l.storyUrl
  | none => { b with catalog := b.catalog.searched docs story }

variable {docs c} {b : Storybook} {url : String} {story : StoryId}

theorem read_eq (docs : String → Except SourceFault Json.Value) (c : StorySettings) (url : String) (b : Storybook) :
    ∃ graphs, b.read docs c url = { b with graphs } := by
  unfold read
  split <;> exact ⟨_, rfl⟩

@[simp] theorem graphAt?_read (b : Storybook) (other : String) :
    (b.read docs c url).graphAt? docs c other = b.graphAt? docs c other := by
  unfold read
  split
  · rename_i doc hg hdoc
    simp only [graphAt?, Table.get?_put]
    split
    · rename_i hurl
      subst hurl
      rw [hg, hdoc]
      rfl
    · rfl
  · rfl

@[simp] theorem read_read (b : Storybook) : (b.read docs c url).read docs c url = b.read docs c url := by
  cases hg : b.graphs.get? url with
  | some g => simp only [read, hg]
  | none =>
    cases hdoc : docs url with
    | error cause => simp only [read, hg, hdoc]
    | ok doc => simp only [read, hg, hdoc, Table.get?_put_self]

theorem learned_of_none (h : usable? (b.catalog.locate? docs story) = none) :
    b.learned docs c story = { b with catalog := b.catalog.searched docs story } := by
  simp only [learned, h]

theorem learned_of_some {l : Locator} (h : usable? (b.catalog.locate? docs story) = some l) :
    b.learned docs c story = ({ b with catalog := b.catalog.searched docs story }).read docs c l.storyUrl := by
  simp only [learned, h]

theorem learned_eq (docs : String → Except SourceFault Json.Value) (c : StorySettings) (b : Storybook)
    (story : StoryId) :
    ∃ graphs, b.learned docs c story = { b with catalog := b.catalog.searched docs story, graphs } := by
  cases h : usable? (b.catalog.locate? docs story) with
  | none => exact ⟨_, learned_of_none h⟩
  | some l =>
    obtain ⟨graphs, hread⟩ := read_eq docs c l.storyUrl
      { b with catalog := b.catalog.searched docs story }
    exact ⟨graphs, (learned_of_some h).trans hread⟩

@[simp] theorem catalog_learned : (b.learned docs c story).catalog = b.catalog.searched docs story := by
  obtain ⟨graphs, h⟩ := learned_eq docs c b story
  rw [h]

@[simp] theorem places_learned : (b.learned docs c story).places = b.places := by
  obtain ⟨graphs, h⟩ := learned_eq docs c b story
  rw [h]

@[simp] theorem mounted_learned : (b.learned docs c story).mounted = b.mounted := by
  obtain ⟨graphs, h⟩ := learned_eq docs c b story
  rw [h]

@[simp] theorem graphAt?_learned (url : String) :
    (b.learned docs c story).graphAt? docs c url = b.graphAt? docs c url := by
  cases h : usable? (b.catalog.locate? docs story) with
  | none => rw [learned_of_none h]; rfl
  | some l => rw [learned_of_some h, graphAt?_read]; rfl

@[simp] theorem told?_learned (other : StoryId) :
    (b.learned docs c story).told? docs c other = b.told? docs c other := by
  simp only [told?, catalog_learned, Catalog.locate?_searched, graphAt?_learned]

@[simp] theorem learned_learned : (b.learned docs c story).learned docs c story = b.learned docs c story := by
  have hcatalog : (b.learned docs c story).catalog.searched docs story = (b.learned docs c story).catalog := by
    rw [catalog_learned, Catalog.searched_searched]
  have hlocate : (b.learned docs c story).catalog.locate? docs story = b.catalog.locate? docs story := by
    rw [catalog_learned, Catalog.locate?_searched]
  cases h : usable? (b.catalog.locate? docs story) with
  | none => rw [learned_of_none (hlocate ▸ h), hcatalog]
  | some l =>
    rw [learned_of_some (hlocate ▸ h), hcatalog]
    show (b.learned docs c story).read docs c l.storyUrl = _
    rw [learned_of_some h, read_read]

theorem learned_aside (places : Table StoryId NodeId) (mounted : Option Mounted) :
    ({ b with places, mounted } : Storybook).learned docs c story =
      { b.learned docs c story with places, mounted } := by
  simp only [learned]
  cases usable? (b.catalog.locate? docs story) with
  | none => rfl
  | some l =>
    simp only [read]
    cases b.graphs.get? l.storyUrl with
    | some g => rfl
    | none => cases docs l.storyUrl <;> rfl

/-- What was learned is not learned again. -/
theorem learned_again (places : Table StoryId NodeId) (mounted : Option Mounted) :
    ({ b.learned docs c story with places, mounted } : Storybook).learned docs c story =
      { b.learned docs c story with places, mounted } := by
  rw [learned_aside, learned_learned]

end Learning

section Mounts

variable (env : (r : Request) → r.Reply)

def recalled (story : StoryId) : Option NodeId :=
  match env (.place story) with
  | .ok saved => saved
  | .error _ => none

variable (c : StorySettings)

/-- A visit that nothing else came in between of. -/
def completed (v : Visit) (s : Staged Storybook) : Staged Storybook :=
  let known : Staged Storybook := { s with part := s.part.learned (docsOf env) c v.story }
  match s.part.told? (docsOf env) c v.story with
  | none => (unmountIfCurrent v known).state
  | some g =>
    match resumeNode? g (s.part.places.get? v.story) (recalled env v.story) with
    | some node => shown c v g node known
    | none => known

def goOn (w : Mounting) (reply : w.request.Reply) :
    Act (Staged Storybook) (Progress Mounting (Option MountOutcome)) := do
  return (← w.resume c reply).map id some

variable {env c} {v : Visit} {s : Staged Storybook}

theorem settle_eq (hcur : s.stage.isCurrent v.generation v.screen = true) (graph : Option Graph)
    (saved : Option NodeId) :
    (settle c v graph saved s).state =
      match filled? graph with
      | none => (unmountIfCurrent v s).state
      | some g =>
        match resumeNode? g (s.part.places.get? v.story) saved with
        | some node => shown c v g node s
        | none => s := by
  have h := settles_settle c v graph saved s
  generalize settle c v graph saved s = made at h ⊢
  cases h with
  | stale _ hnot => exact absurd hcur (Bool.eq_false_iff.1 hnot)
  | empty _ _ hnone => rw [hnone]
  | rendered _ _ hsome hnode =>
    rw [hsome]
    simp only [hnode]

variable (env c) in
theorem concludes_recalling (v : Visit) (s : Staged Storybook) (graph : Option Graph) :
    ∃ outcome, Progress.Concludes Mounting.request (goOn c) env 1 (.waiting (.recalling v graph)) s
      (settle c v graph (recalled env v.story) s).state outcome := by
  have h : ∃ outcome, (goOn c (.recalling v graph) (env (.place v.story)) s).value = .done outcome ∧
      (goOn c (.recalling v graph) (env (.place v.story)) s).state =
        (settle c v graph (recalled env v.story) s).state := by
    unfold recalled
    cases env (.place v.story) <;> exact ⟨_, rfl, rfl⟩
  obtain ⟨outcome, hvalue, hstate⟩ := h
  refine ⟨outcome, .waiting trivial ?_⟩
  rw [hvalue, hstate]
  exact .done ..

theorem settle_learned (hcur : s.stage.isCurrent v.generation v.screen = true) {graph : Option Graph}
    (hgraph : filled? graph = s.part.told? (docsOf env) c v.story) :
    (settle c v graph (recalled env v.story) { s with part := s.part.learned (docsOf env) c v.story }).state =
      completed env c v s := by
  have h := settle_eq (c := c) (s := { s with part := s.part.learned (docsOf env) c v.story }) hcur graph
    (recalled env v.story)
  rw [hgraph] at h
  simp only [places_learned] at h
  exact h

section Located

variable {locator : Option Locator} {l : Locator}

theorem located_of_none (h : usable? locator = none) :
    located v locator s = ⟨(unmountIfCurrent v s).state, [.notInCatalog v.story] ++ [], .done .notInCatalog⟩ := by
  have h : locator.filter (fun l => !Text.blank l.storyUrl) = none := h
  simp only [located, h]
  rfl

theorem located_known (h : usable? locator = some l) {g : Graph} (hg : s.part.graphs.get? l.storyUrl = some g) :
    located v locator s = ⟨s, [], .waiting (.recalling v (some g))⟩ := by
  have h : locator.filter (fun l => !Text.blank l.storyUrl) = some l := h
  simp only [located, h, Act.bind_get, hg]
  rfl

theorem located_unknown (h : usable? locator = some l) (hg : s.part.graphs.get? l.storyUrl = none) :
    located v locator s = ⟨s, [], .waiting (.opening v l.storyUrl)⟩ := by
  have h : locator.filter (fun l => !Text.blank l.storyUrl) = some l := h
  simp only [located, h, Act.bind_get, hg]
  rfl

end Located

variable (env c) in
theorem goOn_opening (v : Visit) {url : String} (hg : s.part.graphs.get? url = none) :
    ∃ graph, (goOn c (.opening v url) (docsOf env url) s).value = .waiting (.recalling v graph) ∧
      (goOn c (.opening v url) (docsOf env url) s).state = { s with part := s.part.read (docsOf env) c url } ∧
      graph = s.part.graphAt? (docsOf env) c url := by
  simp only [graphAt?, read, hg]
  cases hdoc : docsOf env url with
  | error cause => exact ⟨none, rfl, rfl, rfl⟩
  | ok doc =>
    obtain ⟨notices, h⟩ := Mounting.resume_opening c v url doc s
    refine ⟨some (Graph.ofDocument c doc), ?_, ?_, rfl⟩ <;>
      simp only [goOn, Act.bind_apply, h] <;> rfl

variable (env c) in
theorem concludes_located (hcur : s.stage.isCurrent v.generation v.screen = true)
    (hsearched : s.part.catalog.searched (docsOf env) v.story = s.part.catalog) :
    ∃ outcome, Progress.Concludes Mounting.request (goOn c) env 2
      ((located v (s.part.catalog.locate? (docsOf env) v.story) s).value.map id some)
      (located v (s.part.catalog.locate? (docsOf env) v.story) s).state (completed env c v s) outcome := by
  cases hl : usable? (s.part.catalog.locate? (docsOf env) v.story) with
  | none =>
    have htold : s.part.told? (docsOf env) c v.story = none := by rw [told?, hl, Option.bind_none]
    rw [completed, htold, learned_of_none hl, hsearched, located_of_none hl]
    exact ⟨_, .done ..⟩
  | some l =>
    have htold : s.part.told? (docsOf env) c v.story = filled? (s.part.graphAt? (docsOf env) c l.storyUrl) := by
      rw [told?, hl, Option.bind_some]
    have hlearned : s.part.learned (docsOf env) c v.story = s.part.read (docsOf env) c l.storyUrl := by
      rw [learned_of_some hl, hsearched]
    cases hg : s.part.graphs.get? l.storyUrl with
    | some g =>
      have hread : s.part.read (docsOf env) c l.storyUrl = s.part := by simp only [read, hg]
      have hgraph : filled? (some g) = s.part.told? (docsOf env) c v.story := by rw [htold, graphAt?, hg]; rfl
      have hcompleted := settle_learned hcur hgraph
      obtain ⟨outcome, h⟩ := concludes_recalling env c v s (some g)
      rw [hlearned, hread] at hcompleted
      rw [located_known hl hg, ← hcompleted]
      exact ⟨outcome, h.mono (Nat.le_succ 1)⟩
    | none =>
      obtain ⟨graph, hvalue, hstate, hgraph⟩ := goOn_opening env c v hg
      obtain ⟨outcome, h⟩ := concludes_recalling env c v
        { s with part := s.part.learned (docsOf env) c v.story } graph
      rw [settle_learned hcur (by rw [htold, hgraph]), hlearned, ← hstate, ← hvalue] at h
      rw [located_unknown hl hg]
      exact ⟨outcome, .waiting trivial h⟩

theorem completed_of_no_graph (hcur : s.stage.isCurrent v.generation v.screen = true)
    (hgraph : s.part.told? (docsOf env) c v.story = none) :
    completed env c v s = ⟨((s.stage.unmount v.screen).1).setScrollLocked false,
      { s.part.learned (docsOf env) c v.story with mounted := none }⟩ := by
  rw [completed, hgraph]
  dsimp only
  rw [unmountIfCurrent_state, if_pos hcur]

theorem completed_of_graph {g : Graph} {node : NodeId} (hgraph : s.part.told? (docsOf env) c v.story = some g)
    (hnode : resumeNode? g (s.part.places.get? v.story) (recalled env v.story) = some node) :
    completed env c v s = shown c v g node { s with part := s.part.learned (docsOf env) c v.story } := by
  rw [completed, hgraph]
  dsimp only
  rw [hnode]

theorem completed_searched :
    completed env c v { s with part := { s.part with catalog := s.part.catalog.searched (docsOf env) v.story } } =
      completed env c v s := by
  simp only [completed, told?, learned, Catalog.locate?_searched, Catalog.searched_searched]
  rfl

theorem concludes_mount (hcur : s.stage.isCurrent v.generation v.screen = true) :
    ∃ outcome, Progress.Concludes Mounting.request (goOn c) env 3 ((mount v s).value.map id some) (mount v s).state
      (completed env c v s) outcome := by
  rw [mount_eq]
  cases hfound : s.part.catalog.found v.story with
  | done locator =>
    have hsearched : s.part.catalog.searched (docsOf env) v.story = s.part.catalog := by
      simp only [Catalog.searched, hfound]
    obtain ⟨outcome, h⟩ := concludes_located env c hcur hsearched
    rw [Catalog.locate?_of_found hfound] at h
    exact ⟨outcome, h.mono (Nat.le_succ 2)⟩
  | waiting w =>
    have hsearched : (w.resume (docsOf env w.path) s.part.catalog).state =
        s.part.catalog.searched (docsOf env) v.story := by
      simp only [Catalog.searched, hfound]
    obtain ⟨outcome, h⟩ := concludes_located env c
      (s := { s with part := { s.part with catalog := s.part.catalog.searched (docsOf env) v.story } }) hcur
      Catalog.searched_searched
    rw [completed_searched] at h
    refine ⟨outcome, .waiting trivial ?_⟩
    have hlocate := Catalog.locate?_of_waiting (docsOf env) hfound
    rw [Catalog.locate?_searched, ← hlocate, ← hsearched] at h
    exact h

end Mounts

section Visits

variable (c : Settings) (env : (r : Request) → r.Reply)

/-- All that a change comes to that the storybook is told of while it is current. -/
def visited (ch : ScreenChange) (s : Staged Storybook) : Staged Storybook :=
  match c.navigation.storyOf? ch.screen with
  | none => { (unmountExcept none s).state with stage := (unmountExcept none s).state.stage.setScrollLocked false }
  | some story => completed env c.story ⟨story, ch.screen, ch.generation⟩ (unmountExcept (some ch.screen) s).state

variable {c env} {ch : ScreenChange} {s : Staged Storybook}

section Equations

variable {screen : ScreenId} {generation : Nat}

theorem visited_of_no_story (h : c.navigation.storyOf? screen = none) :
    visited c env ⟨screen, generation⟩ s =
      { (unmountExcept none s).state with stage := (unmountExcept none s).state.stage.setScrollLocked false } := by
  simp only [visited, h]

theorem visited_of_story {story : StoryId} (h : c.navigation.storyOf? screen = some story) :
    visited c env ⟨screen, generation⟩ s =
      completed env c.story ⟨story, screen, generation⟩ (unmountExcept (some screen) s).state := by
  simp only [visited, h]

end Equations

variable (c env) in
theorem concludes_enter (ch : ScreenChange) (hcur : s.stage.isCurrent ch.generation ch.screen = true) :
    ∃ outcome, Progress.Concludes Mounting.request (goOn c.story) env 3 (enter c.navigation ch s).value
      (enter c.navigation ch s).state (visited c env ch s) outcome := by
  have h := enters_enter c.navigation ch s
  generalize enter c.navigation ch s = made at h ⊢
  cases h with
  | stale _ hnot => exact absurd hcur (Bool.eq_false_iff.1 hnot)
  | plain _ _ hnone =>
    have hvisited : visited c env ch s = _ := visited_of_no_story hnone
    rw [hvisited]
    exact ⟨_, .done ..⟩
  | @story story _ _ hstory =>
    have hkept : (unmountExcept (some ch.screen) s).state.stage.isCurrent ch.generation ch.screen = true := by
      rw [Stage.isCurrent_iff, unmountExcept_generation, unmountExcept_active, ← Stage.isCurrent_iff]
      exact hcur
    have hvisited : visited c env ch s = _ := visited_of_story hstory
    rw [hvisited]
    exact concludes_mount (v := ⟨story, ch.screen, ch.generation⟩) hkept

end Visits
end Storybook
end Gamebook
