import Gamebook.Player.Command
import Gamebook.Player.View
import Gamebook.Proofs.App.Taps

/-! The numbers of regions on the terminal. A number is a tap at the centre of the region that is listed under it.
The tap does what that region asks for only if nothing else lies there: a slot of the panel or a region that is
listed later takes it, and a region that does not contain its own centre is missed. -/
namespace Gamebook.Player

open App

theorem describeSurface_eq (f : Stage.Surface) : describeSurface f = "== " ++ f.id.text ++ " ==\n" ++
    (if f.regions.isEmpty then "  (no regions)\n" else String.join (f.regions.mapIdx regionLine)) ++
    (f.panel.map describePanel).getD "" := by
  unfold describeSurface
  cases f.panel <;> rfl

/-- What a tap has done for it: the action and the argument of the region that it meets. On a slot and beside all
regions there is nothing to do. -/
def dispatched? (a : App) (p : Stage.Point) : Option (String × Option String) :=
  match Storybook.slotAt? a.stories p with
  | some _ => none
  | none => (a.stage.regionAt? p).map fun r => (r.verb, r.object?)

variable {c : Settings} {a : App} {p : Stage.Point}

theorem dispatched?_eq_some_iff (h : Shown c.story a.stories) {verb : String} {object : Option String} :
    dispatched? a p = some (verb, object) ↔
      ¬ a.OnSlot p ∧ ∃ r, a.stage.LastAt p r ∧ r.verb = verb ∧ r.object? = object := by
  have hon := slotAt?_isSome_iff (p := p) h
  cases hslot : Storybook.slotAt? a.stories p with
  | some i =>
    rw [hslot] at hon
    simp only [dispatched?, hslot]
    exact ⟨fun h => (nomatch h), fun h => absurd (hon.1 rfl) h.1⟩
  | none =>
    rw [hslot] at hon
    have hnot : ¬ a.OnSlot p := fun h => nomatch hon.2 h
    simp only [dispatched?, hslot, Option.map_eq_some_iff, Stage.regionAt?_eq_some_iff, Prod.mk.injEq]
    exact ⟨fun h => ⟨hnot, h⟩, fun h => h.2⟩

theorem dispatched?_eq_none_iff (h : Shown c.story a.stories) :
    dispatched? a p = none ↔ a.OnSlot p ∨ a.stage.NoneAt p := by
  have hon := slotAt?_isSome_iff (p := p) h
  cases hslot : Storybook.slotAt? a.stories p with
  | some i =>
    rw [hslot] at hon
    simp only [dispatched?, hslot]
    exact ⟨fun _ => .inl (hon.1 rfl), fun _ => trivial⟩
  | none =>
    rw [hslot] at hon
    have hnot : ¬ a.OnSlot p := fun h => nomatch hon.2 h
    simp only [dispatched?, hslot, Option.map_eq_none_iff, Stage.regionAt?_eq_none_iff]
    exact ⟨.inr, fun h => h.resolve_left hnot⟩

variable (c) in
/-- What the terminal does with the number under which it lists a region. -/
structure Activates (a : App) (n : Nat) (r : Stage.Region) : Prop where
  listed : ∃ f head tail, a.stage.activeSurface? = some f ∧
    describe a.stage = head ++ String.join (f.regions.mapIdx regionLine) ++ tail ∧
    (f.regions.mapIdx regionLine)[n]? = some (regionLine n r)
  call : Command.call? a.stage (.region (n + 1)) = some (.tap r.rect.center)
  dispatched_iff : dispatched? a r.rect.center = some (r.verb, r.object?) ↔ ¬ a.OnSlot r.rect.center ∧
    ∃ r', a.stage.LastAt r.rect.center r' ∧ r'.verb = r.verb ∧ r'.object? = r.object?
  performed : ∀ verb object, dispatched? a r.rect.center = some (verb, object) →
    Ensures c (.tap r.rect.center) a fun asked b answer =>
      ∃ o, answer = .tapped (.pointer o) ∧ Performed c a verb object asked b o
  missed : dispatched? a r.rect.center = none →
    Ensures c (.tap r.rect.center) a fun _ _ answer =>
      (∃ node, answer = .tapped (.slot node)) ∨ answer = .tapped (.pointer .ignored)

/-- The number of a region has done what the region asks for just if its centre lies in no slot, and the last
region that lies there asks for the same. -/
theorem region_number_activates_what_lies_on_top {first : Catalog} {log : List (App × App)}
    {f : (protocol c).Flight}
    (hrun : (protocol c).Run Call.Plays (fun _ _ => True) ⟨ofCatalog first, []⟩ log f) (hquiet : f.Quiet)
    {surface : Stage.Surface} (hsurface : f.state.stage.activeSurface? = some surface) {n : Nat}
    {r : Stage.Region} (hr : surface.regions[n]? = some r) : Activates c f.state n r := by
  have hshown : Shown c.story f.state.stories := by
    obtain ⟨⟨queue, haloft⟩, -⟩ := aloft_of_run hrun
    exact haloft.kept.tells.shown
  have hrouted := tap_is_routed hrun hquiet r.rect.center
  refine
    { listed := ?_
      call := by simp [Command.call?, hsurface, hr]
      dispatched_iff := dispatched?_eq_some_iff hshown
      performed := fun verb object hdispatched => hrouted.mono fun asked b answer => ?_
      missed := fun hdispatched => hrouted.mono fun asked b answer => ?_ }
  · refine ⟨surface, "== " ++ surface.id.text ++ " ==\n", (surface.panel.map describePanel).getD "", hsurface, ?_,
      by simp [hr]⟩
    have hsome : surface.regions.isEmpty = false := by
      cases hregions : surface.regions with
      | nil => rw [hregions] at hr; cases hr
      | cons => rfl
    simp only [describe, hsurface, describeSurface_eq, hsome, Bool.false_eq_true, if_false]
  · rintro ⟨outcome, rfl, h⟩
    obtain ⟨hnot, r', hlast, rfl, rfl⟩ := (dispatched?_eq_some_iff hshown).1 hdispatched
    obtain ⟨o, rfl, hperformed⟩ := h.performed hnot r' hlast
    rw [← object?_eq] at hperformed
    exact ⟨o, rfl, hperformed⟩
  · rintro ⟨outcome, rfl, h⟩
    by_cases hon : f.state.OnSlot r.rect.center
    · obtain ⟨node, rfl⟩ := h.slot_iff.2 hon
      exact .inl ⟨node, rfl⟩
    · have hnone := ((dispatched?_eq_none_iff hshown).1 hdispatched).resolve_left hon
      exact .inr (congrArg _ (h.ignored hon hnone))

/-- The bell of the hall has the number three. -/
theorem region_number_activates_the_bell :
    (∃ log, (protocol {}).Run Call.Plays (fun _ _ => True) ⟨ofCatalog taleCatalog, []⟩ log atTheStair) ∧
    atTheStair.Quiet ∧ ∃ surface r, atTheStair.state.stage.activeSurface? = some surface ∧
      surface.regions[2]? = some r ∧ Activates {} atTheStair.state 2 r ∧
      dispatched? atTheStair.state r.rect.center = some (r.verb, r.object?) ∧ r.verb = "ring" := by
  have hbell : (atTheStair.state.stage.activeSurface?.bind fun f => f.regions[2]?.map fun r =>
      (dispatched? atTheStair.state r.rect.center, r.verb, r.object?)) =
      some (some ("ring", some "bell"), "ring", some "bell") := by decide +kernel
  obtain ⟨log, hrun⟩ := run_atTheStair
  have hquiet := quiet_atTheStair
  generalize atTheStair = f at *
  obtain ⟨surface, hsurface, hbell⟩ := Option.bind_eq_some_iff.1 hbell
  obtain ⟨r, hr, hbell⟩ := Option.map_eq_some_iff.1 hbell
  simp only [Prod.mk.injEq] at hbell
  obtain ⟨hdispatched, hverb, hobject⟩ := hbell
  refine ⟨⟨log, hrun⟩, hquiet, surface, r, hsurface, hr,
    region_number_activates_what_lies_on_top hrun hquiet hsurface hr, ?_, hverb⟩
  rw [hdispatched, hverb, hobject]

/-- The stair of the hall has the number one, but the door lies on its centre: whoever asks for the stair to the
attic comes to the yard. -/
theorem region_number_of_the_stair_takes_the_door :
    (∃ log, (protocol {}).Run Call.Plays (fun _ _ => True) ⟨ofCatalog taleCatalog, []⟩ log atTheStair) ∧
    atTheStair.Quiet ∧ atTheStair.state.booted = true ∧
    (∃ surface r, atTheStair.state.stage.activeSurface? = some surface ∧ surface.regions[0]? = some r ∧
      r.verb = "go" ∧ r.object? = some "attic" ∧
      Command.call? atTheStair.state.stage (.region 1) = some (.tap r.rect.center) ∧
      dispatched? atTheStair.state r.rect.center = some ("go", some "yard") ∧
      (begin {} (.tap r.rect.center) atTheStair.state).value.isDone = true ∧
      (begin {} (.tap r.rect.center) atTheStair.state).state.stage.active = some ⟨"yard"⟩) := by
  have hstair : (atTheStair.state.stage.activeSurface?.bind fun f => f.regions[0]?.map fun r =>
      (r.verb, r.object?, dispatched? atTheStair.state r.rect.center)) =
      some ("go", some "attic", some ("go", some "yard")) := by decide +kernel
  have htap : (atTheStair.state.stage.activeSurface?.bind fun f => f.regions[0]?.map fun r =>
      ((begin {} (.tap r.rect.center) atTheStair.state).value.isDone,
        (begin {} (.tap r.rect.center) atTheStair.state).state.stage.active)) =
      some (true, some ⟨"yard"⟩) := by decide +kernel
  have hbooted : atTheStair.state.booted = true := by decide +kernel
  have hrun := run_atTheStair
  have hquiet := quiet_atTheStair
  generalize atTheStair = f at *
  obtain ⟨surface, hsurface, hstair⟩ := Option.bind_eq_some_iff.1 hstair
  obtain ⟨r, hr, hstair⟩ := Option.map_eq_some_iff.1 hstair
  simp only [hsurface, Option.bind_some, hr, Option.map_some, Option.some.injEq, Prod.mk.injEq] at htap hstair
  obtain ⟨hverb, hobject, hdispatched⟩ := hstair
  exact ⟨hrun, hquiet, hbooted, surface, r, hsurface, hr, hverb, hobject, by simp [Command.call?, hsurface, hr],
    hdispatched, htap⟩

end Gamebook.Player
