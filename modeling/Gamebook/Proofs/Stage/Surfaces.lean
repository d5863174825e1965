import Gamebook.Stage.Basic
import Mathlib.Data.List.Nodup

/-! Surfaces of a stage, one for each screen. Each operation is described by what it does to the surface
and to the panel of every screen; later modules use these descriptions only. A sound stage has no
screen twice, so that what is said of screens can be said of the list of surfaces. -/
namespace Gamebook

namespace Table

variable {κ α : Type} [DecidableEq κ]

theorem nodup_keys_ensure {t : Table κ α} (h : t.keys.Nodup) (k : κ) (v : α) :
    (t.ensure k v).keys.Nodup := by
  unfold ensure
  split
  · exact h
  · exact nodup_keys_put h k v

theorem put_of_get?_eq {t : Table κ α} {k : κ} {v : α} (h : t.get? k = some v) : t.put k v = t := by
  induction t with
  | nil => cases h
  | cons e rest ih =>
    obtain ⟨key, value⟩ := e
    rw [get?_cons] at h
    rw [put]
    split at h
    · rename_i hk
      obtain rfl := Option.some.inj h
      rw [if_pos hk]
    · rename_i hk
      rw [if_neg hk, ih h]

omit [DecidableEq κ] in
theorem mem_keys_of_mem {t : Table κ α} {k : κ} {v : α} (h : (k, v) ∈ t) : k ∈ t.keys :=
  List.mem_map.2 ⟨(k, v), h, rfl⟩

theorem mem_iff_get? {t : Table κ α} (h : t.keys.Nodup) (k : κ) (v : α) :
    (k, v) ∈ t ↔ t.get? k = some v := by
  induction t with
  | nil => simp
  | cons e rest ih =>
    obtain ⟨key, value⟩ := e
    simp only [keys, List.map_cons, List.nodup_cons] at h
    rw [get?_cons, List.mem_cons, Prod.mk.injEq]
    split
    · rename_i hk
      subst hk
      have hout : (key, v) ∉ rest := fun hm => h.1 (mem_keys_of_mem hm)
      simp only [hout, or_false, true_and, Option.some.injEq]
      exact eq_comm
    · rename_i hk
      have hne : ¬ k = key := fun he => hk he.symm
      simp only [hne, false_and, false_or]
      exact ih h.2

theorem mem_values_iff {t : Table κ α} (h : t.keys.Nodup) (v : α) :
    v ∈ t.values ↔ ∃ k, t.get? k = some v := by
  simp only [values, List.mem_map, Prod.exists, mem_iff_get? h]
  constructor
  · rintro ⟨k, w, hk, rfl⟩
    exact ⟨k, hk⟩
  · rintro ⟨k, hk⟩
    exact ⟨k, v, hk, rfl⟩

theorem filter_values_eq_singleton {t : Table κ α} (h : t.keys.Nodup) {p : α → Bool} {k : κ} {v : α}
    (hv : t.get? k = some v) (hp : p v = true)
    (honly : ∀ {j w}, t.get? j = some w → p w = true → j = k) : t.values.filter p = [v] := by
  have hnodup : (t.filter fun e => p e.2).Nodup := (List.Nodup.of_map _ h).filter _
  have hmem : ∀ e, e ∈ t.filter (fun e => p e.2) ↔ e ∈ [(k, v)] := by
    rintro ⟨j, w⟩
    rw [List.mem_filter, mem_iff_get? h, List.mem_singleton, Prod.mk.injEq]
    constructor
    · rintro ⟨hw, hpw⟩
      obtain rfl := honly hw hpw
      exact ⟨rfl, Option.some.inj (hw.symm.trans hv)⟩
    · rintro ⟨rfl, rfl⟩
      exact ⟨hv, hp⟩
  have hperm := (List.perm_ext_iff_of_nodup hnodup (List.nodup_singleton _)).2 hmem
  show (t.map Prod.snd).filter p = [v]
  rw [List.filter_map]
  exact congrArg (List.map Prod.snd) (List.perm_singleton.1 hperm)

end Table

namespace Stage

/-- No screen has two surfaces, and each surface is named after its screen. -/
structure Sound (s : Stage) : Prop where
  keys : s.surfaces.keys.Nodup
  ids : ∀ {screen : ScreenId} {f : Surface}, s.surface? screen = some f → f.id = screen

theorem sound_empty : ({} : Stage).Sound := ⟨List.nodup_nil, fun h => by cases h⟩

theorem surface?_adjust (s : Stage) (screen j : ScreenId) (f : Surface → Surface) :
    (s.adjust screen f).surface? j = if screen = j then (s.surface? j).map f else s.surface? j :=
  Table.get?_adjust ..

theorem surface?_ensure (s : Stage) (screen j : ScreenId) :
    (s.ensure screen).surface? j =
      if screen = j then some ((s.surface? screen).getD { id := screen }) else s.surface? j :=
  Table.get?_ensure ..

theorem surface?_deactivateAll (s : Stage) (j : ScreenId) :
    s.deactivateAll.surface? j = (s.surface? j).map fun f => { f with active := false } :=
  Table.get?_mapValues (β := Surface) s.surfaces (fun f => { f with active := false }) j

theorem surface?_activate (s : Stage) (screen j : ScreenId) :
    (s.activate screen).surface? j =
      if screen = j then some { (s.surface? screen).getD { id := screen } with active := true }
      else (s.surface? j).map fun f => { f with active := false } := by
  show ((s.deactivateAll.ensure screen).adjust screen _).surface? j = _
  rw [surface?_adjust, surface?_ensure]
  split
  · rw [surface?_deactivateAll]
    cases s.surface? screen <;> rfl
  · exact surface?_deactivateAll ..

section Sound

variable {s : Stage} {screen : ScreenId}

theorem Sound.adjust (h : s.Sound) {f : Surface → Surface} (hf : ∀ x, (f x).id = x.id) :
    (s.adjust screen f).Sound where
  keys := by
    show (s.surfaces.adjust screen f).keys.Nodup
    rw [Table.keys_adjust]
    exact h.keys
  ids := by
    intro j g hg
    rw [surface?_adjust] at hg
    split at hg
    · obtain ⟨x, hx, rfl⟩ := Option.map_eq_some_iff.1 hg
      exact (hf x).trans (h.ids hx)
    · exact h.ids hg

theorem Sound.ensure (h : s.Sound) : (s.ensure screen).Sound where
  keys := Table.nodup_keys_ensure h.keys ..
  ids := by
    intro j g hg
    rw [surface?_ensure] at hg
    split at hg
    · rename_i hj
      subst hj
      cases hs : s.surface? screen <;> rw [hs] at hg <;> cases hg
      · rfl
      · exact h.ids hs
    · exact h.ids hg

theorem Sound.deactivateAll (h : s.Sound) : s.deactivateAll.Sound where
  keys := by
    have hk : s.deactivateAll.surfaces.keys = s.surfaces.keys :=
      Table.keys_mapValues (β := Surface) s.surfaces fun f => { f with active := false }
    rw [hk]
    exact h.keys
  ids := by
    intro j g hg
    rw [surface?_deactivateAll] at hg
    obtain ⟨x, hx, rfl⟩ := Option.map_eq_some_iff.1 hg
    show x.id = j
    exact h.ids hx

theorem Sound.activate (h : s.Sound) : (s.activate screen).Sound := by
  have hs : ((s.deactivateAll.ensure screen).adjust screen
      fun f => { f with active := true }).Sound := (h.deactivateAll.ensure).adjust fun _ => rfl
  exact ⟨hs.keys, hs.ids⟩

theorem Sound.setScrollLocked (h : s.Sound) (on : Bool) : (s.setScrollLocked on).Sound :=
  ⟨h.keys, h.ids⟩

theorem Sound.replaceRegions (h : s.Sound) (rs : List Region) : (s.replaceRegions screen rs).1.Sound :=
  h.adjust fun _ => rfl

theorem Sound.mount (h : s.Sound) (panel : Panel) : (s.mount screen panel).Sound := by
  have hs : ((s.ensure screen).adjust screen fun f => { f with panel := some panel }).Sound :=
    h.ensure.adjust fun _ => rfl
  exact ⟨hs.keys, hs.ids⟩

theorem Sound.scroll (h : s.Sound) (top : Nat) : (s.scroll screen top).1.Sound :=
  h.adjust fun _ => rfl

end Sound

section Panels

variable (s : Stage) (screen j : ScreenId)

theorem panel?_adjust (f : Surface → Surface) :
    (s.adjust screen f).panel? j =
      if screen = j then (s.surface? j).bind fun x => (f x).panel else s.panel? j := by
  simp only [panel?, surface?_adjust]
  split
  · cases s.surface? j <;> rfl
  · rfl

@[simp] theorem panel?_ensure : (s.ensure screen).panel? j = s.panel? j := by
  simp only [panel?, surface?_ensure]
  split
  · rename_i hj
    subst hj
    cases s.surface? screen <;> rfl
  · rfl

@[simp] theorem panel?_deactivateAll : s.deactivateAll.panel? j = s.panel? j := by
  simp only [panel?, surface?_deactivateAll]
  cases s.surface? j <;> rfl

@[simp] theorem panel?_setScrollLocked (on : Bool) : (s.setScrollLocked on).panel? j = s.panel? j := rfl

@[simp] theorem panel?_activate : (s.activate screen).panel? j = s.panel? j := by
  simp only [panel?, surface?_activate]
  split
  · rename_i hj
    subst hj
    cases s.surface? screen <;> rfl
  · cases s.surface? j <;> rfl

@[simp] theorem panel?_replaceRegions (rs : List Region) :
    (s.replaceRegions screen rs).1.panel? j = s.panel? j := by
  show (s.adjust screen _).panel? j = _
  rw [panel?_adjust]
  split <;> rfl

theorem panel?_mount (panel : Panel) :
    (s.mount screen panel).panel? j = if screen = j then some panel else s.panel? j := by
  show ((s.ensure screen).adjust screen _).panel? j = _
  rw [panel?_adjust]
  split
  · rename_i hj
    subst hj
    simp [surface?_ensure]
  · exact panel?_ensure ..

theorem panel?_scroll (top : Nat) :
    (s.scroll screen top).1.panel? j =
      if screen = j then (s.panel? j).map fun p => { p with scrollTop := top } else s.panel? j := by
  show (s.adjust screen _).panel? j = _
  rw [panel?_adjust]
  split
  · simp only [panel?]
    cases s.surface? j <;> rfl
  · rfl

/-- What is left of a stage when a panel is taken off: the lock is the only thing beside it. -/
theorem unmount_eq :
    (s.unmount screen).1 =
      let t := s.adjust screen fun f => { f with panel := none }
      { t with scrollLocked := t.hasPanel && s.scrollLocked } := by
  simp only [unmount]
  split
  · rename_i h
    rw [h, Bool.true_and]
    rfl
  · rename_i h
    rw [Bool.eq_false_iff.2 h, Bool.false_and]

theorem panel?_unmount :
    (s.unmount screen).1.panel? j = if screen = j then none else s.panel? j := by
  rw [unmount_eq]
  show (s.adjust screen _).panel? j = _
  rw [panel?_adjust]
  split
  · cases s.surface? j <;> rfl
  · rfl

@[simp] theorem unmount_generation : (s.unmount screen).1.generation = s.generation := by
  rw [unmount_eq]; rfl

@[simp] theorem unmount_active : (s.unmount screen).1.active = s.active := by
  rw [unmount_eq]; rfl

theorem unmount_scrollLocked :
    (s.unmount screen).1.scrollLocked = ((s.unmount screen).1.hasPanel && s.scrollLocked) := by
  rw [unmount_eq]; rfl

end Panels

theorem Sound.unmount {s : Stage} {screen : ScreenId} (h : s.Sound) : (s.unmount screen).1.Sound := by
  rw [unmount_eq]
  have hs : (s.adjust screen fun f => { f with panel := none }).Sound := h.adjust fun _ => rfl
  exact ⟨hs.keys, hs.ids⟩

theorem mem_surfaces_iff {s : Stage} (h : s.Sound) (f : Surface) :
    f ∈ s.surfaces.values ↔ s.surface? f.id = some f := by
  rw [Table.mem_values_iff h.keys]
  constructor
  · rintro ⟨screen, hf⟩
    rw [h.ids hf]
    exact hf
  · exact fun hf => ⟨f.id, hf⟩

theorem panel?_eq_some_iff {s : Stage} (h : s.Sound) {screen : ScreenId} {p : Panel} :
    s.panel? screen = some p ↔ ∃ f ∈ s.surfaces.values, f.id = screen ∧ f.panel = some p := by
  rw [panel?, Option.bind_eq_some_iff]
  constructor
  · rintro ⟨f, hf, hp⟩
    obtain rfl := h.ids hf
    exact ⟨f, (mem_surfaces_iff h f).2 hf, rfl, hp⟩
  · rintro ⟨f, hf, rfl, hp⟩
    exact ⟨f, (mem_surfaces_iff h f).1 hf, hp⟩

theorem hasPanel_iff {s : Stage} (h : s.Sound) :
    s.hasPanel = true ↔ ∃ screen, (s.panel? screen).isSome = true := by
  simp only [hasPanel, List.any_eq_true, Option.isSome_iff_exists, panel?_eq_some_iff h]
  constructor
  · rintro ⟨f, hf, p, hp⟩
    exact ⟨f.id, p, f, hf, rfl, hp⟩
  · rintro ⟨screen, p, f, hf, -, hp⟩
    exact ⟨f, hf, p, hp⟩

theorem isCurrent_iff (s : Stage) (generation : Nat) (screen : ScreenId) :
    s.isCurrent generation screen = true ↔ s.generation = generation ∧ s.active = some screen := by
  simp [isCurrent]

/-- One screen is active and no other is, and the location names it. -/
structure Alone (s : Stage) (screen : ScreenId) : Prop where
  active : s.active = some screen
  fragment : s.fragment = some screen
  surface : ∃ f, s.surface? screen = some f ∧ f.active = true
  others : ∀ {j f}, s.surface? j = some f → f.active = true → j = screen

theorem Alone.replaceRegions {s : Stage} {screen : ScreenId} (h : s.Alone screen) (j : ScreenId)
    (rs : List Region) : (s.replaceRegions j rs).1.Alone screen where
  active := h.active
  fragment := h.fragment
  surface := by
    obtain ⟨f, hf, ha⟩ := h.surface
    show ∃ g, (s.adjust j _).surface? screen = some g ∧ g.active = true
    rw [surface?_adjust, hf]
    by_cases hj : j = screen
    · exact ⟨{ f with regions := rs }, by simp [hj], ha⟩
    · exact ⟨f, by simp [hj], ha⟩
  others := by
    intro i f hf ha
    change (s.adjust j _).surface? i = some f at hf
    rw [surface?_adjust] at hf
    split at hf
    · obtain ⟨g, hg, rfl⟩ := Option.map_eq_some_iff.1 hf
      exact h.others hg ha
    · exact h.others hf ha

theorem Alone.actives {s : Stage} {screen : ScreenId} (h : s.Alone screen) (hs : s.Sound) :
    (s.surfaces.values.filter (·.active)).map (·.id) = [screen] := by
  obtain ⟨f, hf, ha⟩ := h.surface
  rw [Table.filter_values_eq_singleton hs.keys hf ha h.others, List.map_singleton, hs.ids hf]

theorem regions_replaceRegions (s : Stage) (screen j : ScreenId) (rs : List Region) :
    (s.replaceRegions screen rs).1.regions j =
      if screen = j ∧ (s.surface? j).isSome then rs else s.regions j := by
  have hsurface : (s.replaceRegions screen rs).1.surface? j =
      if screen = j then (s.surface? j).map fun f => { f with regions := rs } else s.surface? j :=
    surface?_adjust ..
  rw [regions, regions, hsurface]
  by_cases hj : screen = j <;> cases s.surface? j <;> simp [hj]

theorem ensureAll_same (s : Stage) (ids : List ScreenId) :
    (ids.foldl ensure s).generation = s.generation ∧ (ids.foldl ensure s).active = s.active ∧
      (ids.foldl ensure s).scrollLocked = s.scrollLocked ∧
      (∀ j, (ids.foldl ensure s).panel? j = s.panel? j) ∧ (s.Sound → (ids.foldl ensure s).Sound) := by
  induction ids generalizing s with
  | nil => exact ⟨rfl, rfl, rfl, fun _ => rfl, id⟩
  | cons screen ids ih =>
    obtain ⟨hgeneration, hactive, hlocked, hpanel, hsound⟩ := ih (s.ensure screen)
    exact ⟨hgeneration, hactive, hlocked, fun j => (hpanel j).trans (panel?_ensure ..),
      fun h => hsound h.ensure⟩

section UnmountAll

variable {s : Stage} (fs : List Surface)

theorem unmountAll_generation :
    (fs.foldl (fun stage f => (stage.unmount f.id).1) s).generation = s.generation := by
  induction fs generalizing s with
  | nil => rfl
  | cons f fs ih => rw [List.foldl_cons, ih, unmount_generation]

theorem unmountAll_active :
    (fs.foldl (fun stage f => (stage.unmount f.id).1) s).active = s.active := by
  induction fs generalizing s with
  | nil => rfl
  | cons f fs ih => rw [List.foldl_cons, ih, unmount_active]

theorem Sound.unmountAll (h : s.Sound) :
    (fs.foldl (fun stage f => (stage.unmount f.id).1) s).Sound := by
  induction fs generalizing s with
  | nil => exact h
  | cons f fs ih => exact ih h.unmount

theorem panel?_unmountAll (j : ScreenId) :
    (fs.foldl (fun stage f => (stage.unmount f.id).1) s).panel? j =
      if j ∈ fs.map (·.id) then none else s.panel? j := by
  induction fs generalizing s with
  | nil => rfl
  | cons f fs ih =>
    rw [List.foldl_cons, ih, panel?_unmount]
    by_cases hj : f.id = j
    · simp [hj]
    · have hne : ¬ j = f.id := fun he => hj he.symm
      simp [hj, hne]

/-- The page stays locked exactly as long as panels do. -/
theorem scrollLocked_unmountAll (h : s.scrollLocked = s.hasPanel) :
    let t := fs.foldl (fun stage f => (stage.unmount f.id).1) s
    t.Sound → s.Sound → t.scrollLocked = t.hasPanel := by
  induction fs generalizing s with
  | nil => intro t _ _; exact h
  | cons f fs ih =>
    intro t ht hs
    refine ih (s := (s.unmount f.id).1) ?_ ht hs.unmount
    rw [unmount_scrollLocked, h]
    by_cases hp : (s.unmount f.id).1.hasPanel = true
    · obtain ⟨screen, hscreen⟩ := (hasPanel_iff hs.unmount).1 hp
      have : s.hasPanel = true := (hasPanel_iff hs).2 ⟨screen, by
        rw [panel?_unmount] at hscreen
        split at hscreen
        · cases hscreen
        · exact hscreen⟩
      rw [hp, this]; rfl
    · rw [Bool.eq_false_iff.2 hp, Bool.false_and]

end UnmountAll
end Stage
end Gamebook
