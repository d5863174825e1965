import Gamebook.Proofs.App.Steps

/-! The account that a player keeps of navigations. Every accepted one is in one place: its regions are
being fetched, or it waits in the channel, or it was taken from there, and then the storybook was told of
it or was not. `Kept` joins the account with what is shown; every part of a step keeps it. -/
namespace Gamebook

def Stage.current? (s : Stage) : Option ScreenChange :=
  s.active.map fun screen => ⟨screen, s.generation⟩

theorem Stage.current?_eq_some_iff (s : Stage) (ch : ScreenChange) :
    s.current? = some ch ↔ s.isCurrent ch.generation ch.screen = true := by
  obtain ⟨screen, generation⟩ := ch
  rw [isCurrent_iff, current?, Option.map_eq_some_iff]
  constructor
  · rintro ⟨_, hactive, he⟩
    cases he
    exact ⟨rfl, hactive⟩
  · rintro ⟨rfl, hactive⟩
    exact ⟨screen, hactive, rfl⟩

theorem Stage.current?_eq_none_iff (s : Stage) : s.current? = none ↔ s.active = none := by
  simp [current?]

theorem Stage.current?_congr {s t : Stage} (hgeneration : t.generation = s.generation)
    (hactive : t.active = s.active) : t.current? = s.current? := by
  rw [current?, current?, hgeneration, hactive]

/-- A transition taken from the channel, and whether the storybook was told of it. -/
structure Taken where
  change : ScreenChange
  told : Bool
  deriving DecidableEq

/-- No two changes have a generation in common, none is newer than the stage, and that of the active
screen is among them. -/
structure Ledger (entries : Multiset ScreenChange) (s : Stage) : Prop where
  nodup : (entries.map (·.generation)).Nodup
  bounded : ∀ ch ∈ entries, ch.generation ≤ s.generation
  current : ∀ ch, s.current? = some ch → ch ∈ entries

namespace Ledger

variable {entries : Multiset ScreenChange} {s t : Stage}

theorem of_same (h : Ledger entries s) (hgeneration : t.generation = s.generation)
    (hactive : t.active = s.active) : Ledger entries t where
  nodup := h.nodup
  bounded := by
    rw [hgeneration]
    exact h.bounded
  current := by
    rw [Stage.current?_congr hgeneration hactive]
    exact h.current

theorem depart (h : Ledger entries s) {screen : ScreenId} (hgeneration : t.generation = s.generation + 1)
    (hactive : t.active = some screen) : Ledger (⟨screen, t.generation⟩ ::ₘ entries) t where
  nodup := by
    rw [Multiset.map_cons, Multiset.nodup_cons]
    refine ⟨fun hmem => ?_, h.nodup⟩
    obtain ⟨ch, hch, hg⟩ := Multiset.mem_map.1 hmem
    have := h.bounded ch hch
    have hg : ch.generation = t.generation := hg
    omega
  bounded := by
    intro ch hch
    rcases Multiset.mem_cons.1 hch with rfl | hch
    · exact Nat.le_refl _
    · have := h.bounded ch hch
      omega
  current := by
    intro ch hch
    rw [Stage.current?, hactive] at hch
    obtain rfl := Option.some.inj hch
    exact Multiset.mem_cons_self ..

end Ledger

section Tells

variable (answers : (r : Request) → r.Reply → Prop) (c : Settings) (first : Catalog)

/-- What is shown is what the storybook was told of. As long as the change of the active screen was not
taken, nothing is said of the story mounted; one that was taken without telling leaves none. -/
structure Tells (told : Multiset Taken) (mounts : Multiset Mounting) (s : Staged Storybook) : Prop where
  shown : Shown c.story s
  sourced : Sourced answers c.story first s.part
  apt : ∀ w ∈ mounts, ⟨w.visit.change, true⟩ ∈ told ∧ w.Apt answers c first
  focused : ∀ ch, s.stage.current? = some ch → ⟨ch, true⟩ ∈ told → Focused ch.screen s
  settled : ∀ ch, s.stage.current? = some ch → ⟨ch, true⟩ ∈ told →
    (∃ w ∈ mounts, w.visit.change = ch) ∨ Settled answers c first s
  lost : ∀ ch, s.stage.current? = some ch → ⟨ch, false⟩ ∈ told → s.part.mounted = none
  idle : s.stage.current? = none → s.part.mounted = none

variable {answers c first} {told : Multiset Taken} {mounts : Multiset Mounting} {s t : Staged Storybook}

namespace Tells

theorem of_same (h : Tells answers c first told mounts s) (hshown : Shown c.story t)
    (hsourced : Sourced answers c.story first t.part) (hgeneration : t.stage.generation = s.stage.generation)
    (hactive : t.stage.active = s.stage.active) (hmounted : t.part.mounted = s.part.mounted) :
    Tells answers c first told mounts t := by
  have hcurrent := Stage.current?_congr hgeneration hactive
  refine ⟨hshown, hsourced, h.apt, ?_, ?_, ?_, ?_⟩
  · intro ch hch htold m hm
    exact h.focused ch (hcurrent ▸ hch) htold m (hmounted ▸ hm)
  · intro ch hch htold
    exact (h.settled ch (hcurrent ▸ hch) htold).imp_right (·.of_same hactive hmounted)
  · rw [hcurrent, hmounted]
    exact h.lost
  · rw [hcurrent, hmounted]
    exact h.idle

/-- Another screen was made active by a navigation that was not taken yet. -/
theorem depart (h : Tells answers c first told mounts s) (hshown : Shown c.story t)
    (hsourced : Sourced answers c.story first t.part) {ch : ScreenChange}
    (hcurrent : t.stage.current? = some ch) (hnew : ∀ e ∈ told, e.change ≠ ch) :
    Tells answers c first told mounts t where
  shown := hshown
  sourced := hsourced
  apt := h.apt
  focused ch' hch' htold := by
    obtain rfl := Option.some.inj (hcurrent.symm.trans hch')
    exact absurd rfl (hnew _ htold)
  settled ch' hch' htold := by
    obtain rfl := Option.some.inj (hcurrent.symm.trans hch')
    exact absurd rfl (hnew _ htold)
  lost ch' hch' htold := by
    obtain rfl := Option.some.inj (hcurrent.symm.trans hch')
    exact absurd rfl (hnew _ htold)
  idle hnone := by
    rw [hcurrent] at hnone
    cases hnone

/-- Transitions are taken while no story was ever mounted. -/
theorem untold (h : Tells answers c first told mounts s) (hmounted : s.part.mounted = none)
    {told' : Multiset Taken} (hsub : ∀ e ∈ told, e ∈ told')
    (hfalse : ∀ e ∈ told', e.told = true → e ∈ told) : Tells answers c first told' mounts s where
  shown := h.shown
  sourced := h.sourced
  apt w hw := ⟨hsub _ (h.apt w hw).1, (h.apt w hw).2⟩
  focused ch hch _ m hm := by
    rw [hmounted] at hm
    cases hm
  settled ch hch htold := h.settled ch hch (hfalse _ htold rfl)
  lost _ _ _ := hmounted
  idle _ := hmounted

theorem tended {others rest : Multiset Mounting} {told' : Multiset Taken} {ch : ScreenChange}
    (h : Tells answers c first told mounts s) (ht : Tended answers c first ch s t rest)
    (hsub : ∀ e ∈ told, e ∈ told') (hnew : ∀ e ∈ told', e ∈ told ∨ e.change = ch)
    (htold : ⟨ch, true⟩ ∈ told') (hlost : ⟨ch, false⟩ ∉ told')
    (hmounts : ∀ w ∈ mounts, w ∈ others ∨ w.visit.change = ch) (hothers : ∀ w ∈ others, w ∈ mounts) :
    Tells answers c first told' (rest + others) t := by
  have hcurrent : t.stage.current? = s.stage.current? := Stage.current?_congr ht.generation ht.active
  have hold : ∀ ch' flag, ⟨ch', flag⟩ ∈ told' → ch' ≠ ch → ⟨ch', flag⟩ ∈ told := fun ch' flag hin hne =>
    (hnew _ hin).resolve_right hne
  -- a step for another change than the current one leaves the mounted story alone
  have hstale : ∀ ch', s.stage.current? = some ch' → ch' ≠ ch → t.part.mounted = s.part.mounted := by
    intro ch' hch' hne
    refine ht.stale (Bool.eq_false_iff.2 fun hcur => hne ?_)
    rw [← Stage.current?_eq_some_iff] at hcur
    exact Option.some.inj (hch'.symm.trans hcur)
  refine ⟨ht.shown, ht.sourced, fun w hw => ?_, fun ch' hch' htold' => ?_, fun ch' hch' htold' => ?_,
    fun ch' hch' htold' => ?_, fun hnone => ?_⟩
  · rcases Multiset.mem_add.1 hw with hw | hw
    · obtain ⟨hv, hapt⟩ := ht.waits w hw
      exact ⟨hv ▸ htold, hapt⟩
    · obtain ⟨hin, hapt⟩ := h.apt w (hothers w hw)
      exact ⟨hsub _ hin, hapt⟩
  · rw [hcurrent] at hch'
    by_cases hne : ch' = ch
    · subst hne
      exact ht.focused ((Stage.current?_eq_some_iff ..).1 hch')
    · intro m hm
      rw [hstale ch' hch' hne] at hm
      exact h.focused ch' hch' (hold _ _ htold' hne) m hm
  · rw [hcurrent] at hch'
    by_cases hne : ch' = ch
    · subst hne
      by_cases hrest : rest = 0
      · exact .inr (ht.settled ((Stage.current?_eq_some_iff ..).1 hch') hrest)
      · obtain ⟨w, hw⟩ := Multiset.exists_mem_of_ne_zero hrest
        exact .inl ⟨w, Multiset.mem_add.2 (.inl hw), (ht.waits w hw).1⟩
    · rcases h.settled ch' hch' (hold _ _ htold' hne) with ⟨w, hw, hv⟩ | hsettled
      · refine .inl ⟨w, Multiset.mem_add.2 (.inr ?_), hv⟩
        exact (hmounts w hw).resolve_right fun hw => hne (hv.symm.trans hw)
      · exact .inr (hsettled.of_same ht.active (hstale ch' hch' hne))
  · rw [hcurrent] at hch'
    by_cases hne : ch' = ch
    · subst hne
      exact absurd htold' hlost
    · rw [hstale ch' hch' hne]
      exact h.lost ch' hch' (hold _ _ htold' hne)
  · rw [hcurrent] at hnone
    rw [ht.stale (Bool.eq_false_iff.2 fun hcur => ?_)]
    · exact h.idle hnone
    · rw [(Stage.current?_eq_some_iff ..).2 hcur] at hnone
      cases hnone

end Tells
end Tells
end Gamebook
