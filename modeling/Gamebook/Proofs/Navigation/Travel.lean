import Gamebook.Proofs.Navigation.Arrivals

/-! A navigation that nothing else comes in between of. It is refused and leaves everything as it is, or it
arrives; and then it is said of each part of the stage and of what navigation knows what became of it. -/
namespace Gamebook.Navigation

open Screen (Route)

/-- A navigation from its first step to its announcement; its regions are looked for in `docs`. -/
def travel (c : NavigationSettings) (docs : String → Except SourceFault Json.Value) (route : Route) :
    Act (Staged Navigation) (Option ScreenId) := do
  match ← go c route with
  | .done answer => return answer
  | .waiting w => settle w (docs w.document.text)

/-- There is no registry, or the route is an alias that stands for no screen yet, or the screen that it leads to
is not registered. -/
def Barred (nav : Navigation) (route : Route) : Prop :=
  nav.registry = none ∨ nav.memory.lookUp? route = none ∨
    ∃ registry screen, nav.registry = some registry ∧ nav.memory.lookUp? route = some screen ∧
      registry.contains screen = false

variable (c : NavigationSettings) (docs : String → Except SourceFault Json.Value)

/-- What an accepted navigation leads to. The screen that the route names is the only active one and the one that
the location names, in a generation of its own; it has the regions that were found for it, or none if they could
not be had. Its style sheet is attached unless it was before, the memory notes it, and its change is sent.
All else is as it was. -/
structure Arrival (route : Route) (screen : ScreenId) (s t : Staged Navigation) : Prop where
  named : s.part.memory.lookUp? route = some screen
  registered : ∃ registry, s.part.registry = some registry ∧ registry.contains screen = true
  alone : t.stage.Alone screen
  generation : t.stage.generation = s.stage.generation + 1
  regions : t.stage.regions screen = regionsOf docs s.part screen
  elsewhere : ∀ j, j ≠ screen → t.stage.regions j = s.stage.regions j
  panels : ∀ j, t.stage.panel? j = s.stage.panel? j
  locked : t.stage.scrollLocked = s.stage.scrollLocked
  stylesheets : t.stage.stylesheets = s.stage.stylesheets ++ s.part.unattached (s.part.entryOf screen)
  part : t.part = { noted c screen s.part with
    transitions := s.part.transitions.send ⟨screen, s.stage.generation + 1⟩ }

variable {c docs} {route : Route} {screen : ScreenId} {s : Staged Navigation} {registry : Screen.Registry}

theorem not_barred_iff (nav : Navigation) (route : Route) : ¬ nav.Barred route ↔
    ∃ registry screen, nav.registry = some registry ∧ nav.memory.resolve route registry = .ok screen := by
  simp only [Screen.Memory.resolve_eq_ok_iff, Barred]
  cases nav.registry <;> cases nav.memory.lookUp? route <;> simp

theorem travel_of_barred (h : s.part.Barred route) :
    (travel c docs route s).state = s ∧ (travel c docs route s).value = none := by
  cases hr : s.part.registry with
  | none =>
    simp only [travel, go, Act.bind_apply, Act.get_apply, hr]
    exact ⟨rfl, rfl⟩
  | some registry =>
    cases hm : s.part.memory.resolve route registry with
    | error cause =>
      simp only [travel, Act.bind_apply, go_of_error hr hm]
      exact ⟨rfl, rfl⟩
    | ok screen => exact absurd h ((not_barred_iff _ route).2 ⟨registry, screen, hr, hm⟩)

theorem travel_of_ok (hr : s.part.registry = some registry) (hm : s.part.memory.resolve route registry = .ok screen) :
    (travel c docs route s).state = arrived c docs screen s ∧ (travel c docs route s).value = some screen := by
  simp only [travel, Act.bind_apply]
  rcases arrives_go (c := c) docs hr hm with ⟨hvalue, hstate⟩ | ⟨w, hvalue, rfl, hstate⟩
  · simp only [hvalue, Act.pure_apply]
    exact ⟨hstate, trivial⟩
  · simp only [hvalue]
    exact ⟨hstate, settle_value w _ _⟩

theorem panel?_arrived (j : ScreenId) : (arrived c docs screen s).stage.panel? j = s.stage.panel? j := by
  show (Stage.replaceRegions _ _ _).1.panel? j = _
  rw [Stage.panel?_replaceRegions, opened, Stage.panel?_activate]
  exact Stage.panel?_deactivateAll s.stage j

theorem regions_arrived {j : ScreenId} (h : j ≠ screen) :
    (arrived c docs screen s).stage.regions j = s.stage.regions j := by
  show (Stage.replaceRegions _ _ _).1.regions j = _
  have hopened : (opened screen s.part s.stage).surface? j =
      (s.stage.surface? j).map fun f => { f with active := false } := by
    rw [surface?_opened, if_neg (Ne.symm h)]
  rw [Stage.regions_replaceRegions, if_neg fun hj => h hj.1.symm, Stage.regions, Stage.regions, hopened]
  cases s.stage.surface? j <;> rfl

theorem arrival_arrived (hr : s.part.registry = some registry) (hm : s.part.memory.resolve route registry = .ok screen) :
    Arrival c docs route screen s (arrived c docs screen s) where
  named := ((Screen.Memory.resolve_eq_ok_iff ..).1 hm).1
  registered := ⟨registry, hr, ((Screen.Memory.resolve_eq_ok_iff ..).1 hm).2⟩
  alone := at_arrived.alone
  generation := rfl
  regions := at_arrived.regions
  elsewhere _ h := regions_arrived h
  panels _ := panel?_arrived _
  locked := rfl
  stylesheets := rfl
  part := rfl

theorem arrival_of_travel (h : (travel c docs route s).value = some screen) :
    Arrival c docs route screen s (travel c docs route s).state := by
  have hopen : ¬ s.part.Barred route := by
    intro hbarred
    rw [(travel_of_barred hbarred).2] at h
    cases h
  obtain ⟨registry, other, hr, hm⟩ := (not_barred_iff s.part route).1 hopen
  obtain ⟨hstate, hvalue⟩ : (travel c docs route s).state = arrived c docs other s ∧
    (travel c docs route s).value = some other := travel_of_ok hr hm
  obtain rfl := Option.some.inj (hvalue.symm.trans h)
  rw [hstate]
  exact arrival_arrived hr hm

/-- The hall is gone to although its regions cannot be had. -/
example : (travel {} (fun path => .error (.notFound path)) (.screen ⟨"hall"⟩)
    ⟨{}, { registry := some ⟨⟨"hall"⟩, [(⟨"hall"⟩, { hitboxes := some ⟨"hall.json"⟩ })]⟩ }⟩).value =
      some ⟨"hall"⟩ := by
  decide +kernel

end Gamebook.Navigation
