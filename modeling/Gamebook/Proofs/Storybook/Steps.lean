import Gamebook.Storybook
import Gamebook.Proofs.Stage.Surfaces
import Gamebook.Proofs.Story.WellFormed

/-! What the steps of the storybook do: one lemma for each operation, with every way in which it can
end. A mount waits without touching anything shown, or it ends: it comes too late, it finds no story and
clears its screen, or it shows a scene that the story has. -/
namespace Gamebook

def Mounting.visit : Mounting → Visit
  | .locating v _ => v
  | .opening v _ => v
  | .recalling v _ => v

structure Mounting.Exchange where
  asked : Mounting
  reply : asked.request.Reply

def Visit.change (v : Visit) : ScreenChange := ⟨v.screen, v.generation⟩

namespace Catalog

def found (catalog : Catalog) (story : StoryId) : Progress Locating (Option Locator) :=
  match catalog with
  | .packs path none => if Text.blank story.text then .done none else .waiting ⟨story, path⟩
  | catalog => .done (catalog.lookUp? story)

theorem resolve_eq (story : StoryId) (catalog : Catalog) :
    resolve story catalog = ⟨catalog, [], catalog.found story⟩ := by
  simp only [resolve, Act.bind_get]
  match catalog with
  | .fixed locators => rfl
  | .packs path (some index) => rfl
  | .packs path none =>
    simp only [found, Act.ite_apply]
    split <;> rfl

end Catalog

namespace Storybook

open Story (Graph)

theorem contains_of_resumeNode? {g : Graph} {inSession saved : Option NodeId} {node : NodeId}
    (h : resumeNode? g inSession saved = some node) : g.contains node = true := by
  simp only [resumeNode?, Option.or_eq_some_iff, Option.filter_eq_some_iff] at h
  rcases h with ⟨-, h⟩ | ⟨-, ⟨-, h⟩ | ⟨-, h⟩⟩
  · exact h
  · exact h
  · exact Graph.contains_of_entry? h

/-- A story with scenes always has one to go on with. -/
theorem exists_resumeNode? {g : Graph} (h : g.isEmpty = false) (inSession saved : Option NodeId) :
    ∃ node, resumeNode? g inSession saved = some node := by
  obtain ⟨entry, he⟩ := Graph.exists_entry? h
  simp only [resumeNode?, he]
  cases inSession.filter g.contains with
  | some node => exact ⟨node, rfl⟩
  | none =>
    cases saved.filter g.contains with
    | some node => exact ⟨node, rfl⟩
    | none => exact ⟨entry, rfl⟩

def usable? (locator : Option Locator) : Option Locator :=
  locator.filter fun l => !Text.blank l.storyUrl

def filled? (graph : Option Graph) : Option Graph := graph.filter fun g => !g.isEmpty

/-- All that can follow once a story was located, or not. -/
inductive Located (v : Visit) (locator : Option Locator) (s : Staged Storybook) :
    Made (Staged Storybook) (Progress Mounting MountOutcome) → Prop
  | missing (notices : List Notice) : usable? locator = none →
      Located v locator s ⟨(unmountIfCurrent v s).state, notices, .done .notInCatalog⟩
  | known {l : Locator} {graph : Graph} (notices : List Notice) : usable? locator = some l →
      s.part.graphs.get? l.storyUrl = some graph →
      Located v locator s ⟨s, notices, .waiting (.recalling v (some graph))⟩
  | opening {l : Locator} (notices : List Notice) : usable? locator = some l →
      s.part.graphs.get? l.storyUrl = none →
      Located v locator s ⟨s, notices, .waiting (.opening v l.storyUrl)⟩

theorem located_located (v : Visit) (locator : Option Locator) (s : Staged Storybook) :
    Located v locator s (located v locator s) := by
  unfold located
  cases hl : locator.filter fun l => !Text.blank l.storyUrl with
  | none => exact .missing _ hl
  | some l =>
    simp only [Act.bind_get]
    cases hg : s.part.graphs.get? l.storyUrl with
    | some graph => exact .known _ hl hg
    | none => exact .opening _ hl hg

def shown (c : StorySettings) (v : Visit) (graph : Graph) (node : NodeId) (s : Staged Storybook) :
    Staged Storybook where
  stage := display c ⟨v.story, v.screen, graph⟩ node s.stage
  part := { s.part with
    places := s.part.places.put v.story node
    mounted := some ⟨v.story, v.screen, graph⟩ }

/-- All that can follow once the saved place of a reader was read, or not. -/
inductive Settles (c : StorySettings) (v : Visit) (graph : Option Graph) (saved : Option NodeId)
    (s : Staged Storybook) : Made (Staged Storybook) MountOutcome → Prop
  | stale (notices : List Notice) : s.stage.isCurrent v.generation v.screen = false →
      Settles c v graph saved s ⟨s, notices, .stale⟩
  | empty (notices : List Notice) : s.stage.isCurrent v.generation v.screen = true →
      filled? graph = none → Settles c v graph saved s ⟨(unmountIfCurrent v s).state, notices, .empty⟩
  | rendered {g : Graph} {node : NodeId} (notices : List Notice) :
      s.stage.isCurrent v.generation v.screen = true → filled? graph = some g →
      resumeNode? g (s.part.places.get? v.story) saved = some node →
      Settles c v graph saved s ⟨shown c v g node s, notices, .rendered node⟩

theorem settles_settle (c : StorySettings) (v : Visit) (graph : Option Graph) (saved : Option NodeId)
    (s : Staged Storybook) : Settles c v graph saved s (settle c v graph saved s) := by
  simp only [settle, Act.bind_get, Act.ite_apply]
  cases hcur : s.stage.isCurrent v.generation v.screen with
  | false => exact .stale _ hcur
  | true =>
    rw [if_pos rfl]
    cases hf : graph.filter fun g => !g.isEmpty with
    | none => exact .empty _ hcur hf
    | some g =>
      have hne : g.isEmpty = false := by
        have := (Option.filter_eq_some_iff.1 hf).2
        simpa using this
      obtain ⟨node, hnode⟩ := exists_resumeNode? hne (s.part.places.get? v.story) saved
      simp only [hnode, Act.bind_apply, Act.ite_apply]
      split <;> exact .rendered _ hcur hf hnode

theorem mount_eq (v : Visit) (s : Staged Storybook) :
    mount v s =
      match s.part.catalog.found v.story with
      | .done locator => located v locator s
      | .waiting w => ⟨s, [], .waiting (.locating v w)⟩ := by
  simp only [mount, Act.bind_apply, Staged.onPart_apply, Act.within_apply, Catalog.resolve_eq]
  cases s.part.catalog.found v.story <;> rfl

/-- All that can follow when the storybook hears of a change. -/
inductive Enters (c : NavigationSettings) (ch : ScreenChange) (s : Staged Storybook) :
    Made (Staged Storybook) (Progress Mounting (Option MountOutcome)) → Prop
  | stale (notices : List Notice) : s.stage.isCurrent ch.generation ch.screen = false →
      Enters c ch s ⟨s, notices, .done (some .stale)⟩
  | plain (notices : List Notice) : s.stage.isCurrent ch.generation ch.screen = true →
      c.storyOf? ch.screen = none →
      Enters c ch s ⟨{ (unmountExcept none s).state with
        stage := (unmountExcept none s).state.stage.setScrollLocked false }, notices, .done none⟩
  | story {story : StoryId} (notices : List Notice) :
      s.stage.isCurrent ch.generation ch.screen = true → c.storyOf? ch.screen = some story →
      Enters c ch s
        ⟨(mount ⟨story, ch.screen, ch.generation⟩ (unmountExcept (some ch.screen) s).state).state, notices,
          (mount ⟨story, ch.screen, ch.generation⟩
            (unmountExcept (some ch.screen) s).state).value.map id some⟩

theorem enters_enter (c : NavigationSettings) (ch : ScreenChange) (s : Staged Storybook) :
    Enters c ch s (enter c ch s) := by
  simp only [enter, Act.bind_get, Act.ite_apply]
  cases hcur : s.stage.isCurrent ch.generation ch.screen with
  | false => exact .stale _ hcur
  | true =>
    rw [if_pos rfl]
    cases hs : c.storyOf? ch.screen with
    | none => exact .plain _ hcur hs
    | some story => exact .story _ hcur hs

theorem target?_eq_some {s : Staged Storybook} {m : Mounted} {slot : Nat} {target : NodeId}
    (h : target? s m slot = some target) :
    s.stage.active = some m.screen ∧ m.graph.contains target = true ∧
      ∃ panel, s.stage.panel? m.screen = some panel ∧
        (panel.slots[slot]?).bind (·.target) = some target := by
  unfold target? at h
  split at h
  · rename_i hactive
    simp only [Option.bind_eq_bind, Option.bind_eq_some_iff] at h
    obtain ⟨panel, hpanel, sl, hsl, x, hx, ht⟩ := h
    split at ht
    · rename_i hin
      obtain rfl := Option.some.inj ht
      exact ⟨hactive, hin, panel, hpanel, by rw [hsl]; exact hx⟩
    · cases ht
  · cases h

inductive Selects (c : StorySettings) (story : StoryId) (slot : Nat) (s : Staged Storybook) :
    Made (Staged Storybook) (Progress Saving (Option NodeId)) → Prop
  | nothing (notices : List Notice) :
      (∀ m, s.part.mounted = some m → m.story = story → target? s m slot = none) →
      Selects c story slot s ⟨s, notices, .done none⟩
  | chosen {m : Mounted} {target : NodeId} (notices : List Notice) : s.part.mounted = some m →
      m.story = story → target? s m slot = some target →
      Selects c story slot s
        ⟨⟨display c m target s.stage, { s.part with places := s.part.places.put story target }⟩, notices,
          .waiting ⟨⟨story, m.screen, s.stage.generation⟩, target⟩⟩

theorem selects_select (c : StorySettings) (story : StoryId) (slot : Nat) (s : Staged Storybook) :
    Selects c story slot s (select c story slot s) := by
  simp only [select, Act.bind_get]
  cases hm : s.part.mounted.filter fun m => m.story = story with
  | none =>
    refine .nothing _ fun m hmounted hstory => ?_
    rw [hmounted, Option.filter_some, hstory] at hm
    simp at hm
  | some m =>
    obtain ⟨hmounted, hstory⟩ := Option.filter_eq_some_iff.1 hm
    have hstory : m.story = story := by simpa using hstory
    cases ht : target? s m slot with
    | none =>
      simp only [ht]
      refine .nothing _ fun m' hm' _ => ?_
      obtain rfl := Option.some.inj (hmounted.symm.trans hm')
      exact ht
    | some target =>
      simp only [ht]
      exact .chosen _ hmounted hstory ht

inductive Chooses (c : StorySettings) (s : Staged Storybook) :
    Made (Staged Storybook) (Progress Saving (Option NodeId)) → Prop
  | nothing (notices : List Notice) : Chooses c s ⟨s, notices, .done none⟩
  | selects {story : StoryId} {slot : Nat}
      {made : Made (Staged Storybook) (Progress Saving (Option NodeId))} :
      Selects c story slot s made → Chooses c s made

theorem chooses_choose (c : StorySettings) (slot : Nat) (s : Staged Storybook) :
    Chooses c s (choose c slot s) := by
  simp only [choose, Act.bind_get]
  cases s.part.mounted with
  | none => exact .nothing _
  | some m => exact .selects (selects_select c m.story slot s)

theorem chooses_selectAt (c : StorySettings) (p : Stage.Point) (s : Staged Storybook) :
    Chooses c s (selectAt c p s) := by
  simp only [selectAt, Act.bind_get]
  cases slotAt? s p with
  | none => exact .nothing _
  | some slot => exact chooses_choose c slot s

end Storybook

theorem Mounting.resume_opening (c : StorySettings) (v : Visit) (url : String) (doc : Json.Value)
    (s : Staged Storybook) :
    ∃ notices, (Mounting.opening v url).resume c (.ok doc) s =
      ⟨⟨s.stage, { s.part with graphs := s.part.graphs.put url (Story.Graph.ofDocument c doc) }⟩, notices,
        .waiting (.recalling v (some (Story.Graph.ofDocument c doc)))⟩ := by
  simp only [Mounting.resume, Act.bind_apply, Act.ite_apply]
  split <;> exact ⟨_, rfl⟩

theorem Saving.resume_state (w : Saving) (reply : w.request.Reply) (s : Staged Storybook) :
    (w.resume reply s).state = { s with
      stage := if s.stage.isCurrent w.visit.generation w.visit.screen then
        (s.stage.scroll w.visit.screen 0).1 else s.stage } := by
  cases reply <;> rfl

end Gamebook
