import Gamebook.Proofs.Interleaving
import Gamebook.Proofs.Navigation.Arrivals
import Gamebook.Proofs.Stage.Spotlight

/-! The regions of the screen that is shown. They are those of its document, or the document is still being
fetched: `Furnished`. It is kept by each step of a navigation as long as the documents do not change. -/
namespace Gamebook

namespace Stage

/-- What can be seen of the screens beside their panels. -/
structure Scenery where
  active : Option ScreenId
  generation : Nat
  lit : ScreenId → Bool
  regions : ScreenId → List Region

def scenery (s : Stage) : Scenery := ⟨s.active, s.generation, s.lit, s.regions⟩

theorem scenery_ensureAll (s : Stage) (ids : List ScreenId) : (ids.foldl ensure s).scenery = s.scenery := by
  obtain ⟨hgeneration, hactive, -⟩ := ensureAll_same s ids
  obtain ⟨-, -, hlit⟩ := spotlight_eq_iff.1 (spotlight_ensureAll (s := s) ids)
  rw [scenery, hactive, hgeneration, hlit, regions_ensureAll]
  rfl

end Stage

namespace Navigation

def scenery (s : Staged Navigation) : Stage.Scenery × Option Screen.Registry := (s.stage.scenery, s.part.registry)

variable (docs : String → Except SourceFault Json.Value) (known : Navigation)

/-- The registry is the known one once it has come, and the screen that is shown has its regions unless they are
being fetched. -/
structure Furnished (fits : Multiset Fitting) (s : Staged Navigation) : Prop where
  registry : ∀ r, s.part.registry = some r → known.registry = some r
  documents : ∀ w ∈ fits, (known.entryOf w.screen).hitboxes = some w.document
  lit : ∀ screen, s.stage.active = some screen → s.stage.lit screen = true
  regions : ∀ screen, s.stage.active = some screen → s.stage.regions screen = known.regionsOf docs screen ∨
    ∃ w ∈ fits, w.change = ⟨screen, s.stage.generation⟩

namespace Furnished

variable {docs known} {c : NavigationSettings} {fits : Multiset Fitting} {s t : Staged Navigation}

theorem start : Furnished docs known 0 ⟨{}, {}⟩ :=
  ⟨nofun, fun w hw => absurd hw (Multiset.notMem_zero w), nofun, nofun⟩

theorem of_scenery (h : Furnished docs known fits s) (hst : scenery t = scenery s) : Furnished docs known fits t := by
  obtain ⟨hstage, hregistry⟩ := Prod.mk.inj hst
  obtain ⟨hactive, hgeneration, hlit, hregions⟩ := Stage.Scenery.mk.inj hstage
  refine ⟨?_, h.documents, ?_, ?_⟩
  · rw [hregistry]
    exact h.registry
  · rw [hactive, hlit]
    exact h.lit
  · rw [hactive, hregions, hgeneration]
    exact h.regions

theorem hitboxes_eq (h : Furnished docs known fits s) {registry : Screen.Registry}
    (hr : s.part.registry = some registry) (screen : ScreenId) :
    (known.entryOf screen).hitboxes = document? registry screen := by
  rw [entryOf, h.registry registry hr]
  rfl

theorem went (h : Furnished docs known fits s)
    {made : Made (Staged Navigation) (Progress Fitting (Option ScreenId))} (hmade : Went c s made) :
    Furnished docs known (made.value.pending + fits) made.state := by
  cases hmade with
  | refused =>
    rw [Progress.pending_done, zero_add]
    exact h
  | @departed registry screen document t _ hr _ hdocument hd =>
    refine ⟨fun r htr => h.registry r (hd.registry.symm.trans htr), ?_, ?_, ?_⟩
    · intro w hw
      rcases Multiset.mem_add.1 hw with hw | hw
      · rw [Multiset.mem_singleton.1 hw]
        exact (h.hitboxes_eq hr screen).trans hdocument
      · exact h.documents w hw
    · intro j hj
      obtain rfl := Option.some.inj (hd.active.symm.trans hj)
      exact Stage.lit_iff.2 hd.alone.surface
    · intro j hj
      obtain rfl := Option.some.inj (hd.active.symm.trans hj)
      exact .inr ⟨_, Multiset.mem_add.2 (.inl (Multiset.mem_singleton_self _)), rfl⟩
  | @arrived registry screen t _ hr _ hdocument hd =>
    rw [Progress.pending_done, zero_add]
    refine ⟨fun r htr => h.registry r (hd.registry.symm.trans htr), h.documents, ?_, ?_⟩
    · intro j hj
      obtain rfl := Option.some.inj (hd.active.symm.trans hj)
      exact Stage.lit_iff.2 (hd.alone.replaceRegions screen []).surface
    · -- the screen has no document, so that it is shown without regions
      intro j hj
      obtain rfl := Option.some.inj (hd.active.symm.trans hj)
      obtain ⟨f, hf, -⟩ := hd.alone.surface
      refine .inl ?_
      rw [regionsOf, (h.hitboxes_eq hr screen).trans hdocument]
      refine (Stage.regions_replaceRegions t.stage screen screen []).trans ?_
      rw [if_pos ⟨rfl, by rw [hf]; rfl⟩]

theorem entered (h : Furnished docs known fits s) {registry : Screen.Registry}
    (hr : known.registry = some registry) : Furnished docs known fits (entered registry s) := by
  have hsame : Furnished docs known fits ⟨s.stage, { s.part with registry := some registry }⟩ :=
    ⟨fun r htr => hr.trans htr, h.documents, h.lit, h.regions⟩
  exact hsame.of_scenery (Prod.ext (Stage.scenery_ensureAll s.stage registry.ids) rfl)

theorem settle {w : Fitting} (h : Furnished docs known ({w} + fits) s) :
    Furnished docs known fits (settle w (docs w.document.text) s).state := by
  have hdocuments : ∀ w' ∈ fits, (known.entryOf w'.screen).hitboxes = some w'.document :=
    fun w' hw' => h.documents w' (Multiset.mem_add.2 (.inr hw'))
  have hw := h.documents w (Multiset.mem_add.2 (.inl (Multiset.mem_singleton_self w)))
  rw [settle_state, Fitting.resume_state]
  split
  · rename_i hcurrent
    obtain ⟨-, hactive⟩ := (Stage.isCurrent_iff ..).1 hcurrent
    have hlit := h.lit w.screen hactive
    obtain ⟨f, hf, -⟩ := Stage.lit_iff.1 hlit
    refine ⟨h.registry, hdocuments, fun j hj => ?_, fun j hj => .inl ?_⟩
    · obtain ⟨-, -, hsame⟩ := Stage.spotlight_eq_iff.1
        (Stage.spotlight_replaceRegions s.stage w.screen (Fitting.regions (docs w.document.text)))
      exact (congrFun hsame j).trans (h.lit j hj)
    · obtain rfl := Option.some.inj (hactive.symm.trans hj)
      rw [regionsOf, hw]
      refine (Stage.regions_replaceRegions s.stage w.screen w.screen _).trans ?_
      rw [if_pos ⟨rfl, by rw [hf]; rfl⟩]
  · rename_i hstale
    refine ⟨h.registry, hdocuments, h.lit, fun j hj => ?_⟩
    rcases h.regions j hj with hregions | ⟨w', hw', hchange⟩
    · exact .inl hregions
    · refine (Multiset.mem_add.1 hw').elim (fun hsame => ?_) fun hw' => .inr ⟨w', hw', hchange⟩
      obtain rfl := Multiset.mem_singleton.1 hsame
      obtain ⟨rfl, hgeneration⟩ := ScreenChange.mk.inj hchange
      exact absurd ((Stage.isCurrent_iff ..).2 ⟨hgeneration.symm, hj⟩) hstale

end Furnished
end Navigation
end Gamebook
