import Gamebook.Proofs.Stage.Surfaces

/-! Stages without their panels. What a navigation does to a stage it does to the bare stage, and what is done
with panels does nothing to that. So a stage is known by its bare stage, its lock and its panels, and up to
scrolling by what the panels show: `unscrolled_ext`. -/
namespace Gamebook

namespace Table

variable {κ α β : Type} [DecidableEq κ]

/-- Tables with the same keys in the same order are told apart by a look-up. -/
theorem ext_of_nodup {t u : Table κ α} (ht : t.keys.Nodup) (hkeys : t.keys = u.keys)
    (hget : ∀ k, t.get? k = u.get? k) : t = u := by
  induction t generalizing u with
  | nil =>
    cases u with
    | nil => rfl
    | cons => cases hkeys
  | cons e rest ih =>
    cases u with
    | nil => cases hkeys
    | cons e' rest' =>
      obtain ⟨key, value⟩ := e
      obtain ⟨key', value'⟩ := e'
      obtain ⟨hkey, hrest⟩ := List.cons.inj hkeys
      obtain rfl : key = key' := hkey
      obtain ⟨hnot, hnodup⟩ := List.nodup_cons.1 ht
      have hvalue := hget key
      rw [get?_cons, get?_cons, if_pos rfl, if_pos rfl] at hvalue
      obtain rfl := Option.some.inj hvalue
      have hrest : keys rest = keys rest' := hrest
      refine congrArg _ (ih hnodup hrest fun k => ?_)
      by_cases hk : key = k
      · subst hk
        rw [(get?_eq_none_iff _ _).2 hnot, (get?_eq_none_iff _ _).2 (hrest ▸ hnot)]
      · have hget := hget k
        rwa [get?_cons, get?_cons, if_neg hk, if_neg hk] at hget

theorem mapValues_put (t : Table κ α) (k : κ) (v : α) (g : α → β) :
    (t.put k v).mapValues g = (t.mapValues g).put k (g v) := by
  induction t with
  | nil => rfl
  | cons e rest ih =>
    obtain ⟨key, value⟩ := e
    simp only [put, mapValues, List.map_cons] at ih ⊢
    split
    · rfl
    · rw [List.map_cons, ih]

theorem contains_mapValues (t : Table κ α) (g : α → β) (k : κ) : (t.mapValues g).contains k = t.contains k := by
  rw [contains, get?_mapValues, Option.isSome_map, contains]

theorem mapValues_ensure (t : Table κ α) (k : κ) (v : α) (g : α → β) :
    (t.ensure k v).mapValues g = (t.mapValues g).ensure k (g v) := by
  rw [ensure, ensure, contains_mapValues]
  split
  · rfl
  · exact mapValues_put ..

theorem mapValues_adjust (t : Table κ α) (k : κ) {f : α → α} {f' : β → β} {g : α → β}
    (h : ∀ x, g (f x) = f' (g x)) : (t.adjust k f).mapValues g = (t.mapValues g).adjust k f' := by
  induction t with
  | nil => rfl
  | cons e rest ih =>
    obtain ⟨key, value⟩ := e
    simp only [adjust, mapValues, List.map_cons] at ih ⊢
    split
    · rw [List.map_cons, h]
    · rw [List.map_cons, ih]

theorem adjust_eq_self {t : Table κ α} {k : κ} {f : α → α} (h : ∀ v, t.get? k = some v → f v = v) :
    t.adjust k f = t := by
  induction t with
  | nil => rfl
  | cons e rest ih =>
    obtain ⟨key, value⟩ := e
    rw [adjust]
    split
    · rename_i hk
      rw [h value (by rw [get?_cons, if_pos hk])]
    · rename_i hk
      rw [ih fun v hv => h v (by rw [get?_cons, if_neg hk, hv])]

end Table

namespace Stage

def Surface.bare (f : Surface) : Surface := { f with panel := none }

/-- A stage as it would be without panels. -/
def bare (s : Stage) : Stage := { s with surfaces := s.surfaces.mapValues Surface.bare, scrollLocked := false }

variable (s : Stage) (screen j : ScreenId)

theorem surface?_bare : s.bare.surface? j = (s.surface? j).map Surface.bare :=
  Table.get?_mapValues s.surfaces Surface.bare j

theorem isSome_surface?_bare : (s.bare.surface? screen).isSome = (s.surface? screen).isSome := by
  rw [surface?_bare, Option.isSome_map]

theorem keys_bare : s.bare.surfaces.keys = s.surfaces.keys := Table.keys_mapValues s.surfaces Surface.bare

theorem bare_adjust {f : Surface → Surface} (hf : ∀ x, (f x).bare = f x.bare) :
    (s.adjust screen f).bare = s.bare.adjust screen f := by
  simp only [bare, adjust, Table.mapValues_adjust s.surfaces screen hf]

theorem bare_ensure : (s.ensure screen).bare = s.bare.ensure screen := by
  simp only [bare, ensure, Table.mapValues_ensure]
  rfl

theorem bare_deactivateAll : s.deactivateAll.bare = s.bare.deactivateAll := by
  simp only [bare, deactivateAll, Table.mapValues, List.map_map]
  rfl

theorem bare_activate : (s.activate screen).bare = s.bare.activate screen := by
  have h : ((s.deactivateAll.ensure screen).adjust screen fun f => { f with active := true }).bare =
      (s.bare.deactivateAll.ensure screen).adjust screen fun f => { f with active := true } := by
    rw [bare_adjust (f := fun f => { f with active := true }) _ _ fun _ => rfl, bare_ensure, bare_deactivateAll]
  exact congrArg (fun t : Stage => { t with active := some screen, fragment := some screen }) h

theorem bare_replaceRegions (rs : List Region) :
    (s.replaceRegions screen rs).1.bare = (s.bare.replaceRegions screen rs).1 :=
  bare_adjust s screen fun _ => rfl

theorem bare_adjust_panel {f : Surface → Surface} (hf : ∀ x, (f x).bare = x.bare) :
    (s.adjust screen f).bare = s.bare := by
  have h : (s.surfaces.adjust screen f).mapValues Surface.bare = (s.surfaces.mapValues Surface.bare).adjust screen id :=
    Table.mapValues_adjust s.surfaces screen hf
  rw [Table.adjust_eq_self (f := id) fun _ _ => rfl] at h
  simp only [bare, adjust, h]

theorem bare_unmount : (s.unmount screen).1.bare = s.bare := by
  rw [unmount_eq]
  exact bare_adjust_panel s screen fun _ => rfl

theorem bare_unmountAll (fs : List Surface) :
    (fs.foldl (fun stage f => (stage.unmount f.id).1) s).bare = s.bare := by
  induction fs generalizing s with
  | nil => rfl
  | cons f fs ih => rw [List.foldl_cons, ih, bare_unmount]

variable {s} {screen}

theorem ensure_eq_self (h : (s.surface? screen).isSome = true) : s.ensure screen = s := by
  have h : s.surfaces.contains screen = true := h
  simp only [ensure, Table.ensure, h, if_true]

theorem adjust_eq_self {f : Surface → Surface} (h : ∀ x, s.surface? screen = some x → f x = x) :
    s.adjust screen f = s := by
  simp only [adjust, Table.adjust_eq_self (t := s.surfaces) h]

theorem mount_eq (h : (s.surface? screen).isSome = true) (p : Panel) :
    s.mount screen p = { s.adjust screen (fun f => { f with panel := some p }) with scrollLocked := true } := by
  rw [mount, ensure_eq_self h]

theorem bare_mount (h : (s.surface? screen).isSome = true) (p : Panel) : (s.mount screen p).bare = s.bare := by
  rw [mount_eq h]
  exact bare_adjust_panel s screen fun _ => rfl

/-- Showing a panel where it is shown already changes nothing on a locked page. -/
theorem mount_eq_self {p : Panel} (hp : s.panel? screen = some p) (hlocked : s.scrollLocked = true) :
    s.mount screen p = s := by
  obtain ⟨f, hf, hfp⟩ := Option.bind_eq_some_iff.1 hp
  have hsame : s.adjust screen (fun f => { f with panel := some p }) = s := by
    refine adjust_eq_self fun x hx => ?_
    obtain rfl := Option.some.inj (hf.symm.trans hx)
    rw [← hfp]
  rw [mount_eq (by rw [hf]; rfl), hsame, ← hlocked]

/-- Taking off a panel that is not there changes nothing on a page that is not locked. -/
theorem unmount_eq_self (hp : s.panel? screen = none) (hlocked : s.scrollLocked = false) :
    (s.unmount screen).1 = s := by
  have hsame : s.adjust screen (fun f => { f with panel := none }) = s := by
    refine adjust_eq_self fun x hx => ?_
    rw [panel?, hx, Option.bind_some] at hp
    rw [← hp]
  rw [unmount_eq]
  simp only [hsame, hlocked, Bool.and_false]
  rw [← hlocked]

theorem regions_bare : s.bare.regions screen = s.regions screen := by
  rw [regions, regions, surface?_bare]
  cases s.surface? screen <;> rfl

theorem Alone.of_bare {t : Stage} (h : s.Alone screen) (hbare : t.bare = s.bare) : t.Alone screen := by
  have hsurface : ∀ j, (t.surface? j).map (·.active) = (s.surface? j).map (·.active) := by
    intro j
    have hj := congrArg (fun u : Stage => (u.surface? j).map (·.active)) hbare
    simp only [surface?_bare, Option.map_map] at hj
    exact hj
  have hactive : ∀ {j f}, t.surface? j = some f → ∃ g, s.surface? j = some g ∧ g.active = f.active := by
    intro j f hf
    have hj := hsurface j
    rw [hf, Option.map_some] at hj
    obtain ⟨g, hg, hga⟩ := Option.map_eq_some_iff.1 hj.symm
    exact ⟨g, hg, hga⟩
  refine ⟨(congrArg Stage.active hbare).trans h.active, (congrArg Stage.fragment hbare).trans h.fragment, ?_, ?_⟩
  · obtain ⟨f, hf, ha⟩ := h.surface
    have hj := hsurface screen
    rw [hf, Option.map_some] at hj
    obtain ⟨g, hg, hga⟩ := Option.map_eq_some_iff.1 hj
    exact ⟨g, hg, hga.trans ha⟩
  · intro j f hf ha
    obtain ⟨g, hg, hga⟩ := hactive hf
    exact h.others hg (hga.trans ha)

def Panel.unscrolled (p : Panel) : Panel := { p with scrollTop := 0 }

def Surface.unscrolled (f : Surface) : Surface := { f with panel := f.panel.map Panel.unscrolled }

def unscrolled (s : Stage) : Stage := { s with surfaces := s.surfaces.mapValues Surface.unscrolled }

theorem Surface.unscrolled_ext {f g : Surface} (hbare : f.bare = g.bare)
    (hpanel : f.panel.map Panel.unscrolled = g.panel.map Panel.unscrolled) : f.unscrolled = g.unscrolled := by
  obtain ⟨id, active, regions, panel⟩ := f
  obtain ⟨id', active', regions', panel'⟩ := g
  obtain ⟨rfl, rfl, rfl, -⟩ := Surface.mk.inj hbare
  exact congrArg (Surface.mk id active regions) hpanel

theorem unscrolled_ext {t : Stage} (hs : s.Sound) (hbare : s.bare = t.bare)
    (hlocked : s.scrollLocked = t.scrollLocked)
    (hpanel : ∀ j, (s.panel? j).map Panel.unscrolled = (t.panel? j).map Panel.unscrolled) :
    s.unscrolled = t.unscrolled := by
  have hkeys : s.surfaces.keys = t.surfaces.keys := by rw [← keys_bare s, ← keys_bare t, hbare]
  have hsurfaces : s.surfaces.mapValues Surface.unscrolled = t.surfaces.mapValues Surface.unscrolled := by
    refine Table.ext_of_nodup ?_ ?_ fun j => ?_
    · rw [Table.keys_mapValues]
      exact hs.keys
    · rw [Table.keys_mapValues, Table.keys_mapValues, hkeys]
    · have hrest : (s.surface? j).map Surface.bare = (t.surface? j).map Surface.bare := by
        rw [← surface?_bare, ← surface?_bare, hbare]
      have hj := hpanel j
      rw [panel?, panel?] at hj
      rw [Table.get?_mapValues, Table.get?_mapValues]
      change (s.surface? j).map _ = (t.surface? j).map _
      cases hx : s.surface? j with
      | none =>
        rw [hx] at hrest
        rw [Option.map_eq_none_iff.1 hrest.symm]
      | some f =>
        rw [hx] at hrest hj
        obtain ⟨g, hg, hgf⟩ := Option.map_eq_some_iff.1 hrest.symm
        rw [hg] at hj ⊢
        exact congrArg some (Surface.unscrolled_ext hgf.symm hj)
  obtain ⟨surfaces, active, generation, stylesheets, fragment, locked⟩ := s
  obtain ⟨surfaces', active', generation', stylesheets', fragment', locked'⟩ := t
  obtain ⟨-, rfl, rfl, rfl, rfl, -⟩ := Stage.mk.inj hbare
  obtain rfl : locked = locked' := hlocked
  exact congrArg (Stage.mk · active generation stylesheets fragment locked) hsurfaces

end Stage
end Gamebook
