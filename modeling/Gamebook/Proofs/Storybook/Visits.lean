import Gamebook.Proofs.Interleaving
import Gamebook.Proofs.Storybook.Shown
import Gamebook.Proofs.Storybook.Sources

/-! What a visit comes to. A step for a visit that is not current leaves the mounted story alone. A step for
the current one leaves no other screen with a panel, and then the visit waits on, or it is settled: the
screen shows its story if that has a graph with scenes, and otherwise nothing is shown. -/
namespace Gamebook

open Story (Graph)
open Storybook

section Visits

variable (answers : (r : Request) → r.Reply → Prop) (c : Settings) (first : Catalog)

def Mounting.Fetched : Mounting → Prop
  | .locating v w => first = .packs w.path none ∧ w.story = v.story
  | .opening v url => ∃ locator l, first.Finds answers v.story locator ∧ usable? locator = some l ∧
      l.storyUrl = url
  | .recalling v graph => Yields answers c.story first v.story graph

structure Mounting.Apt (w : Mounting) : Prop where
  story : c.navigation.storyOf? w.visit.screen = some w.visit.story
  fetched : w.Fetched answers c first

/-- The active screen shows its story as far as it has one that can be shown. -/
def Settled (s : Staged Storybook) : Prop := ∀ screen, s.stage.active = some screen →
  match c.navigation.storyOf? screen with
  | none => s.part.mounted = none
  | some story => ∃ graph, Ends answers c.story first story graph ∧
      s.part.mounted = graph.map fun g => ⟨story, screen, g⟩

/-- All that a step for a change may do, with what is left of it to wait. -/
structure Tended (ch : ScreenChange) (s t : Staged Storybook) (rest : Multiset Mounting) : Prop where
  generation : t.stage.generation = s.stage.generation
  active : t.stage.active = s.stage.active
  shown : Shown c.story t
  sourced : Sourced answers c.story first t.part
  waits : ∀ w ∈ rest, w.visit.change = ch ∧ w.Apt answers c first
  stale : s.stage.isCurrent ch.generation ch.screen = false → t.part.mounted = s.part.mounted
  focused : s.stage.isCurrent ch.generation ch.screen = true → Focused ch.screen t
  settled : s.stage.isCurrent ch.generation ch.screen = true → rest = 0 → Settled answers c first t

variable {answers c first} {s : Staged Storybook}

theorem Settled.of_same (h : Settled answers c first s) {t : Staged Storybook}
    (hactive : t.stage.active = s.stage.active) (hmounted : t.part.mounted = s.part.mounted) :
    Settled answers c first t := by
  intro screen hscreen
  rw [hmounted]
  exact h screen (hactive ▸ hscreen)

theorem tended_waiting {w : Mounting} (hshown : Shown c.story s)
    (hsourced : Sourced answers c.story first s.part)
    (hapt : w.Apt answers c first)
    (hf : s.stage.isCurrent w.visit.generation w.visit.screen = true → Focused w.visit.screen s) :
    Tended answers c first w.visit.change s s {w} where
  generation := rfl
  active := rfl
  shown := hshown
  sourced := hsourced
  waits := by
    intro w' hw'
    obtain rfl := Multiset.mem_singleton.1 hw'
    exact ⟨rfl, hapt⟩
  stale _ := rfl
  focused := hf
  settled _ h := absurd h (Multiset.singleton_ne_zero w)

/-- The visit ends with its screen cleared, if it was current. -/
theorem tended_unmountIfCurrent {v : Visit} (hshown : Shown c.story s)
    (hsourced : Sourced answers c.story first s.part)
    (hstory : c.navigation.storyOf? v.screen = some v.story)
    (hends : Ends answers c.story first v.story none)
    (hf : s.stage.isCurrent v.generation v.screen = true → Focused v.screen s) :
    Tended answers c first v.change s (unmountIfCurrent v s).state 0 where
  generation := unmountIfCurrent_generation v
  active := unmountIfCurrent_active v
  shown := shown_unmountIfCurrent hshown hf
  sourced := by
    rw [unmountIfCurrent_state]
    split
    · exact ⟨hsourced.catalog, hsourced.graphs⟩
    · exact hsourced
  waits := fun w hw => absurd hw (Multiset.notMem_zero w)
  stale := by
    intro hcur
    have hcur : s.stage.isCurrent v.generation v.screen = false := hcur
    rw [unmountIfCurrent_mounted, hcur]
    rfl
  focused := by
    intro hcur m hm
    have hcur : s.stage.isCurrent v.generation v.screen = true := hcur
    rw [unmountIfCurrent_mounted, if_pos hcur] at hm
    cases hm
  settled := by
    intro hcur _ screen hscreen
    have hcur : s.stage.isCurrent v.generation v.screen = true := hcur
    rw [unmountIfCurrent_active, ((Stage.isCurrent_iff ..).1 hcur).2] at hscreen
    obtain rfl := Option.some.inj hscreen
    rw [hstory, unmountIfCurrent_mounted, if_pos hcur]
    exact ⟨none, hends, rfl⟩

theorem tended_located {v : Visit} {locator : Option Locator} (hshown : Shown c.story s)
    (hsourced : Sourced answers c.story first s.part)
    (hstory : c.navigation.storyOf? v.screen = some v.story)
    (hfinds : first.Finds answers v.story locator)
    (hf : s.stage.isCurrent v.generation v.screen = true → Focused v.screen s) :
    Tended answers c first v.change s (located v locator s).state
      (located v locator s).value.pending := by
  have h := located_located v locator s
  generalize located v locator s = made at h ⊢
  cases h with
  | missing _ hnone => exact tended_unmountIfCurrent hshown hsourced hstory (.missing hfinds hnone) hf
  | @known l graph _ hsome hgraph =>
    obtain ⟨doc, hdoc, rfl⟩ := hsourced.graphs hgraph
    exact tended_waiting (w := .recalling v _) hshown hsourced ⟨hstory, .told hfinds hsome hdoc⟩ hf
  | opening _ hsome _ =>
    exact tended_waiting (w := .opening v _) hshown hsourced ⟨hstory, _, _, hfinds, hsome, rfl⟩ hf

theorem tended_settle {v : Visit} {graph : Option Graph} (saved : Option NodeId)
    (hshown : Shown c.story s) (hsourced : Sourced answers c.story first s.part)
    (hstory : c.navigation.storyOf? v.screen = some v.story)
    (hyields : Yields answers c.story first v.story graph)
    (hf : s.stage.isCurrent v.generation v.screen = true → Focused v.screen s) :
    Tended answers c first v.change s (settle c.story v graph saved s).state 0 := by
  have h := settles_settle c.story v graph saved s
  generalize settle c.story v graph saved s = made at h ⊢
  have hrest : ∀ w ∈ (0 : Multiset Mounting), w.visit.change = v.change ∧ w.Apt answers c first :=
    fun w hw => absurd hw (Multiset.notMem_zero w)
  cases h with
  | stale _ hcur =>
    have hnot : s.stage.isCurrent v.change.generation v.change.screen ≠ true :=
      Bool.eq_false_iff.1 hcur
    exact ⟨rfl, rfl, hshown, hsourced, hrest, fun _ => rfl, fun h => absurd h hnot, fun h => absurd h hnot⟩
  | empty _ hcur hnone =>
    have hends := Ends.read hyields
    rw [hnone] at hends
    exact tended_unmountIfCurrent hshown hsourced hstory hends hf
  | @rendered g node _ hcur hfilled hnode =>
    have hshown' := hshown.display (m := ⟨v.story, v.screen, g⟩) node (hf hcur)
      (contains_of_resumeNode? hnode)
    refine ⟨rfl, rfl, hshown', ⟨hsourced.catalog, hsourced.graphs⟩, hrest, fun h => ?_, fun _ m hm => ?_,
      fun _ _ screen hscreen => ?_⟩
    · exact absurd hcur (Bool.eq_false_iff.1 h)
    · obtain rfl := Option.some.inj hm
      rfl
    · have hactive : s.stage.active = some screen := hscreen
      rw [((Stage.isCurrent_iff ..).1 hcur).2] at hactive
      obtain rfl := Option.some.inj hactive
      have hends := Ends.read hyields
      rw [hfilled] at hends
      rw [hstory]
      exact ⟨some g, hends, rfl⟩

theorem tended_resume {w : Mounting} {reply : w.request.Reply} (hshown : Shown c.story s)
    (hsourced : Sourced answers c.story first s.part) (hapt : w.Apt answers c first)
    (hf : s.stage.isCurrent w.visit.generation w.visit.screen = true → Focused w.visit.screen s)
    (hreply : answers w.request reply) :
    Tended answers c first w.visit.change s (w.resume c.story reply s).state
      (w.resume c.story reply s).value.pending := by
  obtain ⟨hstory, hfetched⟩ := hapt
  match w, reply with
  | .locating v w, reply =>
    obtain ⟨hpath, hw⟩ := hfetched
    obtain ⟨hfrom, hfinds⟩ := Catalog.finds_resume hsourced.catalog hpath hreply
    rw [hw] at hfinds
    have hshown' : Shown c.story
        { s with part := { s.part with catalog := (w.resume reply s.part.catalog).state } } :=
      hshown.of_same hshown.sound (fun _ => rfl) rfl rfl rfl
    have h := tended_located hshown' ⟨hfrom, hsourced.graphs⟩ hstory hfinds hf
    exact ⟨h.generation, h.active, h.shown, h.sourced, h.waits, h.stale, h.focused, h.settled⟩
  | .opening v _, .error cause =>
    obtain ⟨locator, l, hfinds, hsome, rfl⟩ := hfetched
    exact tended_waiting (w := .recalling v none) hshown hsourced
      ⟨hstory, .failed hfinds hsome hreply⟩ hf
  | .opening v url, .ok doc =>
    obtain ⟨locator, l, hfinds, hsome, rfl⟩ := hfetched
    let b : Storybook :=
      { s.part with graphs := s.part.graphs.put l.storyUrl (Graph.ofDocument c.story doc) }
    have hsourced' : Sourced answers c.story first b := by
      refine ⟨hsourced.catalog, fun {url graph} hgraph => ?_⟩
      rw [Table.get?_put] at hgraph
      split at hgraph
      · rename_i hurl
        obtain rfl := Option.some.inj hgraph
        exact ⟨doc, hurl ▸ hreply, rfl⟩
      · exact hsourced.graphs hgraph
    have h := tended_waiting (w := .recalling v (some (Graph.ofDocument c.story doc)))
      (hshown.of_same (t := ⟨s.stage, b⟩) hshown.sound (fun _ => rfl) rfl rfl rfl) hsourced'
      ⟨hstory, .told hfinds hsome hreply⟩ hf
    obtain ⟨notices, heq⟩ := Mounting.resume_opening c.story v l.storyUrl doc s
    rw [heq]
    exact ⟨h.generation, h.active, h.shown, h.sourced, h.waits, h.stale, h.focused, h.settled⟩
  | .recalling v graph, .error cause => exact tended_settle none hshown hsourced hstory hfetched hf
  | .recalling v graph, .ok saved => exact tended_settle saved hshown hsourced hstory hfetched hf

theorem tended_enter (ch : ScreenChange) (hshown : Shown c.story s)
    (hsourced : Sourced answers c.story first s.part) :
    Tended answers c first ch s (enter c.navigation ch s).state
      (enter c.navigation ch s).value.pending := by
  have h := enters_enter c.navigation ch s
  generalize enter c.navigation ch s = made at h ⊢
  have hrest : ∀ w ∈ (0 : Multiset Mounting), w.visit.change = ch ∧ w.Apt answers c first :=
    fun w hw => absurd hw (Multiset.notMem_zero w)
  cases h with
  | stale _ hcur =>
    have hnot := Bool.eq_false_iff.1 hcur
    exact ⟨rfl, rfl, hshown, hsourced, hrest, fun _ => rfl, fun h => absurd h hnot, fun h => absurd h hnot⟩
  | plain _ hcur hnone =>
    have hmounted : (unmountExcept none s).state.part.mounted = none := by
      refine Option.eq_none_iff_forall_ne_some.2 fun m hm => ?_
      cases ((unmountExcept_mounted_eq_some_iff ..).1 hm).2
    have hcleared := shown_unmountExcept hshown none
    refine ⟨unmountExcept_generation _, unmountExcept_active _, ?_, ⟨hsourced.catalog, hsourced.graphs⟩,
      hrest, fun h => absurd hcur (Bool.eq_false_iff.1 h), fun _ m hm => ?_, fun _ _ screen hscreen => ?_⟩
    · exact Shown.of_bare (hcleared.sound.setScrollLocked false)
        (hcleared.panel?_of_mounted_eq_none hmounted) rfl hmounted
    · have hm : (unmountExcept none s).state.part.mounted = some m := hm
      rw [hmounted] at hm
      cases hm
    · have hactive : (unmountExcept none s).state.stage.active = some screen := hscreen
      rw [unmountExcept_active, ((Stage.isCurrent_iff ..).1 hcur).2] at hactive
      obtain rfl := Option.some.inj hactive
      rw [hnone]
      exact hmounted
  | @story story _ hcur hstory =>
    have hshown' := shown_unmountExcept hshown (some ch.screen)
    have hsourced' : Sourced answers c.story first (unmountExcept (some ch.screen) s).state.part :=
      ⟨hsourced.catalog, hsourced.graphs⟩
    have hfocused : Focused ch.screen (unmountExcept (some ch.screen) s).state := focused_unmountExcept _
    -- the mount itself, from the state in which the other panels are gone
    have h : Tended answers c first ch (unmountExcept (some ch.screen) s).state
        (mount ⟨story, ch.screen, ch.generation⟩ (unmountExcept (some ch.screen) s).state).state
        (mount ⟨story, ch.screen, ch.generation⟩ (unmountExcept (some ch.screen) s).state).value.pending := by
      rw [mount_eq]
      cases hfound : (unmountExcept (some ch.screen) s).state.part.catalog.found story with
      | done locator =>
        exact tended_located (v := ⟨story, ch.screen, ch.generation⟩) hshown' hsourced' hstory
          (Catalog.finds_of_found hsourced'.catalog hfound) fun _ => hfocused
      | waiting w =>
        obtain ⟨hpath, hw⟩ := Catalog.unloaded_of_found hsourced'.catalog hfound
        exact tended_waiting (w := .locating ⟨story, ch.screen, ch.generation⟩ w) hshown' hsourced'
          ⟨hstory, hpath, hw⟩ fun _ => hfocused
    have hcur' : (unmountExcept (some ch.screen) s).state.stage.isCurrent ch.generation ch.screen = true := by
      rw [Stage.isCurrent_iff, unmountExcept_generation, unmountExcept_active, ← Stage.isCurrent_iff]
      exact hcur
    refine ⟨h.generation.trans (unmountExcept_generation _), h.active.trans (unmountExcept_active _),
      h.shown, h.sourced, fun w hw => h.waits w ?_, fun hnot => absurd hcur (Bool.eq_false_iff.1 hnot),
      fun _ => h.focused hcur', fun _ hz => h.settled hcur' ?_⟩
    · simpa [Progress.pending_map] using hw
    · simpa [Progress.pending_map] using hz

end Visits
end Gamebook
