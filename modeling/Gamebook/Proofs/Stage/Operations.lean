import Gamebook.Proofs.Navigation.Steps
import Mathlib.Data.List.Induction

/-! Stages that come from the empty one by operations, in any order. Which screen is active is kept twice, by
the stage and by its surfaces: `Agrees` says that the two tell the same, and every operation keeps it. The main
statement is `wellKept_after`; regions that are wanted find their surface because of it. -/
namespace Gamebook.Stage

inductive Operation
  | ensure (screen : ScreenId)
  | activate (screen : ScreenId)
  | deactivateAll
  | beginNavigation
  | attach (href : Resource)
  | replaceRegions (screen : ScreenId) (rs : List Region)
  | mount (screen : ScreenId) (panel : Panel)
  | unmount (screen : ScreenId)
  | scroll (screen : ScreenId) (top : Nat)
  | setScrollLocked (on : Bool)

namespace Operation

def apply : Operation → Stage → Stage
  | ensure screen, s => s.ensure screen
  | activate screen, s => s.activate screen
  | deactivateAll, s => s.deactivateAll
  | beginNavigation, s => s.beginNavigation
  | attach href, s => s.attach href
  | replaceRegions screen rs, s => (s.replaceRegions screen rs).1
  | mount screen panel, s => s.mount screen panel
  | unmount screen, s => (s.unmount screen).1
  | scroll screen top, s => (s.scroll screen top).1
  | setScrollLocked on, s => s.setScrollLocked on

def activated? : Operation → Option ScreenId
  | activate screen => some screen
  | _ => none

def attached? : Operation → Option Resource
  | attach href => some href
  | _ => none

variable (op : Operation) (s : Stage)

theorem fragment_apply : (op.apply s).fragment = op.activated?.or s.fragment := by
  cases op with
  | unmount screen =>
    rw [apply, unmount_eq]
    rfl
  | _ => rfl

theorem stylesheets_apply : (op.apply s).stylesheets = s.stylesheets ++ op.attached?.toList := by
  cases op with
  | attach href => rfl
  | unmount screen =>
    rw [apply, unmount_eq]
    exact (List.append_nil _).symm
  | _ => exact (List.append_nil _).symm

end Operation

/-- The stage that some operations lead to, the first of them done to the empty one. -/
def after (ops : List Operation) : Stage := ops.foldl (fun s op => op.apply s) {}

theorem after_concat (ops : List Operation) (op : Operation) : after (ops ++ [op]) = op.apply (after ops) := by
  simp [after]

/-- The active screen has a surface, and the surfaces that are flagged are that of the active screen. -/
structure Agrees (s : Stage) : Prop where
  sound : s.Sound
  shown : ∀ {screen}, s.active = some screen → (s.surface? screen).isSome = true
  flagged : ∀ {screen f}, s.surface? screen = some f → (f.active = true ↔ s.active = some screen)

theorem agrees_empty : ({} : Stage).Agrees where
  sound := sound_empty
  shown h := by cases h
  flagged h := by cases h

section Agrees

variable {s t : Stage} {screen : ScreenId}

theorem Agrees.of_same (h : s.Agrees) (hsurfaces : t.surfaces = s.surfaces) (hactive : t.active = s.active) :
    t.Agrees := by
  have hsurface : ∀ j, t.surface? j = s.surface? j := fun j => by rw [surface?, hsurfaces, surface?]
  refine ⟨⟨hsurfaces ▸ h.sound.keys, fun hf => ?_⟩, fun ha => ?_, fun hf => ?_⟩
  · rw [hsurface] at hf
    exact h.sound.ids hf
  · rw [hactive] at ha
    rw [hsurface]
    exact h.shown ha
  · rw [hsurface] at hf
    rw [hactive]
    exact h.flagged hf

theorem Agrees.adjust (h : s.Agrees) {f : Surface → Surface} (hid : ∀ x, (f x).id = x.id)
    (hflag : ∀ x, (f x).active = x.active) : (s.adjust screen f).Agrees := by
  refine ⟨h.sound.adjust hid, fun {j} ha => ?_, fun {j g} hg => ?_⟩
  · have hsome := h.shown ha
    rw [surface?_adjust]
    split
    · rwa [Option.isSome_map]
    · exact hsome
  · rw [surface?_adjust] at hg
    split at hg
    · obtain ⟨x, hx, rfl⟩ := Option.map_eq_some_iff.1 hg
      rw [hflag]
      exact h.flagged hx
    · exact h.flagged hg

theorem Agrees.ensure (h : s.Agrees) : (s.ensure screen).Agrees := by
  refine ⟨h.sound.ensure, fun {j} ha => ?_, fun {j g} hg => ?_⟩
  · have hsome := h.shown ha
    rw [surface?_ensure]
    split
    · rfl
    · exact hsome
  · show g.active = true ↔ s.active = some j
    rw [surface?_ensure] at hg
    split at hg
    · rename_i hj
      subst hj
      cases hx : s.surface? screen with
      | none =>
        -- A new surface is not flagged, and its screen is not active: else it would have had one.
        rw [hx] at hg
        obtain rfl := Option.some.inj hg
        have hne : s.active ≠ some screen := fun ha => by simpa [hx] using h.shown ha
        simp [hne]
      | some f =>
        rw [hx] at hg
        obtain rfl := Option.some.inj hg
        exact h.flagged hx
    · exact h.flagged hg

theorem Agrees.deactivateAll (h : s.Agrees) : s.deactivateAll.Agrees := by
  refine ⟨h.sound.deactivateAll, fun ha => (by cases ha), fun {j g} hg => ?_⟩
  rw [surface?_deactivateAll] at hg
  obtain ⟨x, -, rfl⟩ := Option.map_eq_some_iff.1 hg
  show false = true ↔ none = some j
  simp

theorem Agrees.activate (h : s.Agrees) : (s.activate screen).Agrees := by
  refine ⟨h.sound.activate, fun {j} ha => ?_, fun {j g} hg => ?_⟩
  · obtain rfl : screen = j := Option.some.inj ha
    rw [surface?_activate, if_pos rfl]
    rfl
  · show g.active = true ↔ some screen = some j
    rw [surface?_activate] at hg
    split at hg
    · rename_i hj
      obtain rfl := Option.some.inj hg
      simp [hj]
    · rename_i hj
      obtain ⟨x, -, rfl⟩ := Option.map_eq_some_iff.1 hg
      simp [hj]

theorem Agrees.apply (h : s.Agrees) (op : Operation) : (op.apply s).Agrees := by
  cases op with
  | ensure screen => exact h.ensure
  | activate screen => exact h.activate
  | deactivateAll => exact h.deactivateAll
  | beginNavigation => exact h.of_same rfl rfl
  | attach href => exact h.of_same rfl rfl
  | replaceRegions screen rs => exact h.adjust (fun _ => rfl) fun _ => rfl
  | mount screen panel =>
    have hmounted : ((s.ensure screen).adjust screen fun f => { f with panel := some panel }).Agrees :=
      h.ensure.adjust (fun _ => rfl) fun _ => rfl
    exact hmounted.of_same rfl rfl
  | unmount screen =>
    have htaken : (s.adjust screen fun f => { f with panel := none }).Agrees :=
      h.adjust (fun _ => rfl) fun _ => rfl
    rw [Operation.apply, unmount_eq]
    exact htaken.of_same rfl rfl
  | scroll screen top => exact h.adjust (fun _ => rfl) fun _ => rfl
  | setScrollLocked on => exact h.of_same rfl rfl

theorem agrees_after (ops : List Operation) : (after ops).Agrees := by
  induction ops using List.reverseRecOn with
  | nil => exact agrees_empty
  | append_singleton ops op ih =>
    rw [after_concat]
    exact ih.apply op

theorem Agrees.actives_of_some (h : s.Agrees) (ha : s.active = some screen) :
    ∃ f, s.surface? screen = some f ∧ s.surfaces.values.filter (·.active) = [f] := by
  obtain ⟨f, hf⟩ := Option.isSome_iff_exists.1 (h.shown ha)
  refine ⟨f, hf, Table.filter_values_eq_singleton h.sound.keys hf ((h.flagged hf).2 ha) fun hg hflag => ?_⟩
  have hj := (h.flagged hg).1 hflag
  exact Option.some.inj (hj.symm.trans ha)

theorem Agrees.actives_of_none (h : s.Agrees) (ha : s.active = none) :
    s.surfaces.values.filter (·.active) = [] := by
  refine List.filter_eq_nil_iff.2 fun f hf hflag => ?_
  obtain ⟨j, hj⟩ := (Table.mem_values_iff h.sound.keys f).1 hf
  have hactive := (h.flagged hj).1 hflag
  rw [ha] at hactive
  cases hactive

theorem Agrees.isSome_of_isCurrent (h : s.Agrees) {generation : Nat}
    (hcurrent : s.isCurrent generation screen = true) : (s.surface? screen).isSome = true :=
  h.shown ((isCurrent_iff ..).1 hcurrent).2

/-- Regions that come find the surface of their screen, unless they are dropped. -/
theorem Agrees.resume_finds (h : s.Agrees) (w : Fitting) (reply : w.request.Reply) :
    (w.resume reply s).value ≠ .noSurface ∧ .noSurface w.screen ∉ (w.resume reply s).notices := by
  simp only [Fitting.resume, Act.bind_get, Act.ite_apply]
  split
  · rename_i hcurrent
    have hfound : s.surfaces.contains w.screen = true := h.isSome_of_isCurrent hcurrent
    cases reply with
    | error cause =>
      simp only [Act.bind_apply, Act.give_apply, Act.set_apply, Act.pure_apply]
      exact ⟨by simp, by simp⟩
    | ok doc =>
      simp only [Act.bind_apply, Act.set_apply, replaceRegions, hfound, if_true, Act.pure_apply]
      exact ⟨by simp, by simp⟩
  · exact ⟨by simp, by simp⟩

theorem resume_eq_apply (w : Fitting) (reply : w.request.Reply) (s : Stage) :
    (w.resume reply s).state = s ∨ ∃ op : Operation, (w.resume reply s).state = op.apply s := by
  rw [Fitting.resume_state]
  split
  · exact .inr ⟨.replaceRegions w.screen (Fitting.regions reply), rfl⟩
  · exact .inl rfl

end Agrees

theorem fragment_after (ops : List Operation) :
    (after ops).fragment = (ops.filterMap Operation.activated?).getLast? := by
  induction ops using List.reverseRecOn with
  | nil => rfl
  | append_singleton ops op ih =>
    rw [after_concat, Operation.fragment_apply, ih, List.filterMap_append, List.getLast?_append]
    cases h : op.activated? <;> simp [h]

/-- Surfaces are kept under their own names. The active screen has the one surface that is flagged, and without an
active screen none is. The location names the screen that was activated last. Work that is current is for a screen
with a surface; so regions that come never find it missing, and the stage they leave comes from operations too. -/
structure WellKept (ops : List Operation) : Prop where
  keys : (after ops).surfaces.keys.Nodup
  ids : ∀ screen f, (screen, f) ∈ (after ops).surfaces → f.id = screen
  shown : ∀ screen, (after ops).active = some screen → ∃ f, (after ops).surface? screen = some f ∧
    (after ops).surfaces.values.filter (·.active) = [f]
  hidden : (after ops).active = none → (after ops).surfaces.values.filter (·.active) = []
  fragment : (after ops).fragment = (ops.filterMap Operation.activated?).getLast?
  current : ∀ generation screen, (after ops).isCurrent generation screen = true →
    ((after ops).surface? screen).isSome = true
  fitted : ∀ (w : Fitting) (reply : w.request.Reply), (w.resume reply (after ops)).value ≠ .noSurface ∧
    .noSurface w.screen ∉ (w.resume reply (after ops)).notices ∧
    ∃ ops', (w.resume reply (after ops)).state = after ops'

theorem wellKept_after (ops : List Operation) : WellKept ops := by
  have h := agrees_after ops
  refine ⟨h.sound.keys, fun screen f hf => ?_, fun _ => h.actives_of_some, h.actives_of_none, fragment_after ops,
    fun _ _ => h.isSome_of_isCurrent, fun w reply => ?_⟩
  · exact h.sound.ids ((Table.mem_iff_get? h.sound.keys screen f).1 hf)
  · obtain ⟨hvalue, hnotices⟩ := h.resume_finds w reply
    refine ⟨hvalue, hnotices, ?_⟩
    rcases resume_eq_apply w reply (after ops) with hstate | ⟨op, hstate⟩
    · exact ⟨ops, hstate⟩
    · exact ⟨ops ++ [op], by rw [hstate, after_concat]⟩

end Gamebook.Stage
