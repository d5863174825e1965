import Gamebook.Proofs.Stage.Surfaces

/-! What lies under a point: of the slots of a panel the first one counts, of the regions of the active screen the
last one that is listed. A point may have any coordinates, also such as compare with nothing; it lies nowhere
then. -/
namespace Gamebook

namespace Table

variable {κ α : Type} [DecidableEq κ]

theorem adjust_adjust (t : Table κ α) (k : κ) (f g : α → α) :
    (t.adjust k f).adjust k g = t.adjust k fun v => g (f v) := by
  induction t with
  | nil => rfl
  | cons e rest ih =>
    obtain ⟨key, value⟩ := e
    by_cases hkey : key = k <;> simp [adjust, hkey, ih]

end Table

namespace Stage

structure FirstSlot (p : Point) (i : Nat) : Prop where
  rect : ∃ r, slotRects[i]? = some r ∧ r.contains p = true
  first : ∀ j r, j < i → slotRects[j]? = some r → r.contains p = false

theorem Panel.slotAt?_eq_some_iff {panel : Panel} (h : panel.slots.length = slotCount) {p : Point} {i : Nat} :
    panel.slotAt? p = some i ↔ FirstSlot p i := by
  have htake : slotRects.take panel.slots.length = slotRects := by rw [h]; rfl
  rw [slotAt?, htake, List.findIdx?_eq_some_iff_getElem]
  constructor
  · rintro ⟨hi, hcontains, hbefore⟩
    refine ⟨⟨_, List.getElem?_eq_getElem hi, hcontains⟩, fun j r hj hr => ?_⟩
    obtain ⟨hlt, rfl⟩ := List.getElem?_eq_some_iff.1 hr
    exact Bool.eq_false_iff.2 (hbefore j hj)
  · rintro ⟨⟨r, hr, hcontains⟩, hfirst⟩
    obtain ⟨hi, rfl⟩ := List.getElem?_eq_some_iff.1 hr
    refine ⟨hi, hcontains, fun j hj => ?_⟩
    exact Bool.eq_false_iff.1 (hfirst j _ hj (List.getElem?_eq_getElem (Nat.lt_trans hj hi)))

theorem Panel.slotAt?_isSome_iff {panel : Panel} (h : panel.slots.length = slotCount) {p : Point} :
    (panel.slotAt? p).isSome = true ↔ ∃ r ∈ slotRects, r.contains p = true := by
  have htake : slotRects.take panel.slots.length = slotRects := by rw [h]; rfl
  rw [slotAt?, htake, List.findIdx?_isSome, List.any_eq_true]

variable {s : Stage} {p : Point} {r : Region}

/-- The last listed region of the active screen that a point lies in. -/
def LastAt (s : Stage) (p : Point) (r : Region) : Prop :=
  ∃ f before after, s.activeSurface? = some f ∧ f.regions = before ++ r :: after ∧ r.rect.contains p = true ∧
    ∀ r' ∈ after, r'.rect.contains p = false

def NoneAt (s : Stage) (p : Point) : Prop :=
  ∀ f, s.activeSurface? = some f → ∀ r ∈ f.regions, r.rect.contains p = false

theorem regionAt?_eq_some_iff : s.regionAt? p = some r ↔ s.LastAt p r := by
  simp only [regionAt?, Option.bind_eq_bind, Option.bind_eq_some_iff, List.find?_eq_some_iff_append]
  constructor
  · rintro ⟨f, hf, hcontains, before, after, hregions, hbefore⟩
    refine ⟨f, after.reverse, before.reverse, hf, ?_, hcontains, fun r' hr' => ?_⟩
    · rw [← List.reverse_reverse f.regions, hregions]
      simp
    · simpa using hbefore r' (List.mem_reverse.1 hr')
  · rintro ⟨f, before, after, hf, hregions, hcontains, hafter⟩
    refine ⟨f, hf, hcontains, after.reverse, before.reverse, by simp [hregions], fun r' hr' => ?_⟩
    simpa using hafter r' (List.mem_reverse.1 hr')

theorem regionAt?_eq_none_iff : s.regionAt? p = none ↔ s.NoneAt p := by
  simp [regionAt?, Option.bind_eq_none_iff, NoneAt]

theorem scroll_mount (s : Stage) (screen : ScreenId) (panel : Panel) (top : Nat) :
    ((s.mount screen panel).scroll screen top).1 = s.mount screen { panel with scrollTop := top } := by
  simp [scroll, mount, adjust, Table.adjust_adjust]

end Stage
end Gamebook
