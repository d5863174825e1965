import Gamebook.Proofs.Stage.Surfaces

/-! Which screen is shown, and with what regions. Surfaces that are added, and what is put on surfaces, change
neither. -/
namespace Gamebook

namespace Stage

variable {s t : Stage} {screen j : ScreenId}

section Has

variable {γ : Type} {d : γ} {g : Surface → γ}

/-- What the surface of each screen has; `d` for those without a surface. -/
def has (d : γ) (g : Surface → γ) (s : Stage) (screen : ScreenId) : γ := (s.surface? screen).elim d g

theorem has_adjust (s : Stage) (screen : ScreenId) {f : Surface → Surface} (hf : ∀ x, g (f x) = g x) :
    (s.adjust screen f).has d g = s.has d g := by
  funext j
  rw [has, has, surface?_adjust]
  split
  · cases s.surface? j with
    | none => rfl
    | some x => exact hf x
  · rfl

theorem has_ensure (s : Stage) (screen : ScreenId) (hd : g { id := screen } = d) :
    (s.ensure screen).has d g = s.has d g := by
  funext j
  rw [has, has, surface?_ensure]
  split
  · rename_i hj
    subst hj
    cases s.surface? screen with
    | none => exact hd
    | some x => rfl
  · rfl

theorem regions_eq_has : s.regions = s.has [] Surface.regions := by
  funext j
  rw [regions, has]
  cases s.surface? j <;> rfl

end Has

def lit (s : Stage) (screen : ScreenId) : Bool := (s.surface? screen).any (·.active)

theorem lit_iff : s.lit screen = true ↔ ∃ f, s.surface? screen = some f ∧ f.active = true := by
  simp [lit, Option.any_eq_true]

theorem lit_eq_has : s.lit = s.has false Surface.active := by
  funext j
  rw [lit, has]
  cases s.surface? j <;> rfl

/-- All that says which screen is shown. -/
def spotlight (s : Stage) : Option ScreenId × Option ScreenId × (ScreenId → Bool) := (s.active, s.fragment, s.lit)

theorem spotlight_eq_iff :
    t.spotlight = s.spotlight ↔ t.active = s.active ∧ t.fragment = s.fragment ∧ t.lit = s.lit := by
  simp only [spotlight, Prod.mk.injEq]

structure Dark (s : Stage) : Prop where
  active : s.active = none
  unlit : ∀ screen, s.lit screen = false

theorem dark_empty : ({} : Stage).Dark := ⟨rfl, fun _ => rfl⟩

theorem alone_iff : s.Alone screen ↔
    s.active = some screen ∧ s.fragment = some screen ∧ s.lit screen = true ∧ ∀ j, s.lit j = true → j = screen := by
  simp only [lit_iff]
  constructor
  · intro h
    exact ⟨h.active, h.fragment, h.surface, fun j ⟨f, hf, ha⟩ => h.others hf ha⟩
  · rintro ⟨hactive, hfragment, hsurface, hothers⟩
    exact ⟨hactive, hfragment, hsurface, fun hf ha => hothers _ ⟨_, hf, ha⟩⟩

theorem Alone.of_spotlight (h : s.Alone screen) (hst : t.spotlight = s.spotlight) : t.Alone screen := by
  obtain ⟨hactive, hfragment, hlit⟩ := spotlight_eq_iff.1 hst
  rw [alone_iff, hactive, hfragment, hlit]
  exact alone_iff.1 h

theorem Dark.of_spotlight (h : s.Dark) (hst : t.spotlight = s.spotlight) : t.Dark := by
  obtain ⟨hactive, -, hlit⟩ := spotlight_eq_iff.1 hst
  exact ⟨hactive.trans h.active, fun j => (congrFun hlit j).trans (h.unlit j)⟩

theorem spotlight_adjust (s : Stage) (screen : ScreenId) {f : Surface → Surface}
    (hf : ∀ x, (f x).active = x.active) : (s.adjust screen f).spotlight = s.spotlight := by
  have hlit : (s.adjust screen f).lit = s.lit := by rw [lit_eq_has, lit_eq_has, has_adjust s screen hf]
  simp only [spotlight, hlit]
  rfl

theorem spotlight_ensure (s : Stage) (screen : ScreenId) : (s.ensure screen).spotlight = s.spotlight := by
  have hlit : (s.ensure screen).lit = s.lit := by
    rw [lit_eq_has, lit_eq_has, has_ensure (g := Surface.active) s screen rfl]
  simp only [spotlight, hlit]
  rfl

theorem spotlight_ensureAll (ids : List ScreenId) : (ids.foldl ensure s).spotlight = s.spotlight := by
  induction ids generalizing s with
  | nil => rfl
  | cons screen ids ih => rw [List.foldl_cons, ih, spotlight_ensure]

theorem spotlight_replaceRegions (s : Stage) (screen : ScreenId) (rs : List Region) :
    (s.replaceRegions screen rs).1.spotlight = s.spotlight :=
  spotlight_adjust s screen fun _ => rfl

theorem regions_adjust (s : Stage) (screen : ScreenId) {f : Surface → Surface}
    (hf : ∀ x, (f x).regions = x.regions) : (s.adjust screen f).regions = s.regions := by
  rw [regions_eq_has, regions_eq_has, has_adjust s screen hf]

theorem regions_ensure (s : Stage) (screen : ScreenId) : (s.ensure screen).regions = s.regions := by
  rw [regions_eq_has, regions_eq_has, has_ensure (g := Surface.regions) s screen rfl]

theorem regions_ensureAll (ids : List ScreenId) : (ids.foldl ensure s).regions = s.regions := by
  induction ids generalizing s with
  | nil => rfl
  | cons screen ids ih => rw [List.foldl_cons, ih, regions_ensure]

end Stage
end Gamebook
