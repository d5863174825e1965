import Gamebook.Proofs.Navigation.Steps
import Gamebook.Proofs.Stage.Bare

/-! What a whole navigation does, from the first step to its announcement, where nothing else happens between
the two: `arrives_go`. It does not see the panels (`bare_arrived`), and once more to the same screen changes
nothing but the generation and the channel (`At.arrived_eq`). -/
namespace Gamebook.Navigation

open Screen (Route Entry)

def entryOf (nav : Navigation) (screen : ScreenId) : Entry :=
  (nav.registry.bind fun registry => registry.entry? screen).getD {}

/-- The style sheet that a screen still has to attach. -/
def unattached (nav : Navigation) (entry : Entry) : List Resource :=
  match entry.css with
  | some href => if Text.blank href.text || nav.styles.contains href then [] else [href]
  | none => []

variable (c : NavigationSettings) (docs : String → Except SourceFault Json.Value)

def regionsOf (nav : Navigation) (screen : ScreenId) : List Stage.Region :=
  match (nav.entryOf screen).hitboxes with
  | some document => Fitting.regions (docs document.text)
  | none => []

def opened (screen : ScreenId) (nav : Navigation) (stage : Stage) : Stage :=
  { stage.beginNavigation.deactivateAll with
    stylesheets := stage.stylesheets ++ nav.unattached (nav.entryOf screen) }.activate screen

def noted (screen : ScreenId) (nav : Navigation) : Navigation :=
  { nav with
    styles := nav.styles ++ nav.unattached (nav.entryOf screen)
    memory := nav.memory.note c screen }

def arrived (screen : ScreenId) (s : Staged Navigation) : Staged Navigation :=
  announce
    ⟨((opened screen s.part s.stage).replaceRegions screen (regionsOf docs s.part screen)).1, noted c screen s.part⟩
    ⟨screen, s.stage.generation + 1⟩

variable {c docs} {screen : ScreenId} {s t : Staged Navigation} {registry : Screen.Registry} {route : Route}

theorem loadStyle_eq (href : Resource) (s : Staged Navigation) (entry : Entry) (hentry : entry.css = some href) :
    (loadStyle href s).state =
      ⟨{ s.stage with stylesheets := s.stage.stylesheets ++ s.part.unattached entry },
        { s.part with styles := s.part.styles ++ s.part.unattached entry }⟩ := by
  simp only [loadStyle, Act.bind_get, Act.ite_apply, unattached, hentry]
  split
  · simp only [List.append_nil]
    rfl
  · rfl

theorem depart_eq (entry : Entry) (hentry : entry = s.part.entryOf screen) :
    (depart c screen entry s).state = ⟨opened screen s.part s.stage, noted c screen s.part⟩ := by
  unfold depart opened noted
  rw [← hentry]
  cases hcss : entry.css with
  | none =>
    simp only [unattached, hcss, List.append_nil]
    rfl
  | some href =>
    simp only [Act.bind_apply, Staged.onStage_apply, Staged.onPart_apply, Act.modify_apply, Act.get_apply,
      Act.pure_apply, loadStyle_eq href _ entry hcss]
    rfl

variable (docs) in
/-- An accepted navigation is over at once, or as soon as its regions have come. -/
theorem arrives_go (hr : s.part.registry = some registry) (hm : s.part.memory.resolve route registry = .ok screen) :
    (go c route s).value = .done (some screen) ∧ (go c route s).state = arrived c docs screen s ∨
      ∃ w : Fitting, (go c route s).value = .waiting w ∧ w.screen = screen ∧
        (settle w (docs w.document.text) (go c route s).state).state = arrived c docs screen s := by
  have hentry : (registry.entry? screen).getD {} = s.part.entryOf screen := by
    rw [entryOf, hr, Option.bind_some]
  have hstate := depart_eq (c := c) _ hentry
  have hvalue := depart_value c screen ((registry.entry? screen).getD {}) s
  rw [hstate] at hvalue
  simp only [go, Act.bind_get, hr, hm]
  cases hh : ((registry.entry? screen).getD {}).hitboxes with
  | none =>
    have hregions : regionsOf docs s.part screen = [] := by rw [regionsOf, ← hentry, hh]
    simp only [Act.bind_apply, Act.pure_apply, hstate, hvalue, arrive, Staged.onStage_apply, Staged.onPart_apply,
      Act.modify_apply]
    refine .inl ⟨trivial, ?_⟩
    rw [arrived, hregions]
    rfl
  | some document =>
    have hregions : regionsOf docs s.part screen = Fitting.regions (docs document.text) := by
      rw [regionsOf, ← hentry, hh]
    simp only [Act.bind_apply, Act.pure_apply, hstate, hvalue]
    refine .inr ⟨_, rfl, rfl, ?_⟩
    have hcurrent : (opened screen s.part s.stage).isCurrent (opened screen s.part s.stage).generation screen = true :=
      (Stage.isCurrent_iff ..).2 ⟨rfl, rfl⟩
    rw [settle_state, Fitting.resume_state, if_pos hcurrent, arrived, hregions]
    rfl

theorem surface?_opened (screen j : ScreenId) (nav : Navigation) (stage : Stage) :
    (opened screen nav stage).surface? j =
      if screen = j then some { (stage.surface? screen).getD { id := screen } with active := true }
      else (stage.surface? j).map fun f => { f with active := false } := by
  rw [opened, Stage.surface?_activate]
  show (if screen = j then
      some { (stage.deactivateAll.surface? screen).getD { id := screen } with active := true }
    else (stage.deactivateAll.surface? j).map fun f => { f with active := false }) = _
  rw [Stage.surface?_deactivateAll, Stage.surface?_deactivateAll]
  cases stage.surface? screen <;> cases stage.surface? j <;> rfl

theorem sound_opened {nav : Navigation} {stage : Stage} (h : stage.Sound) : (opened screen nav stage).Sound := by
  have hd : stage.deactivateAll.Sound := h.deactivateAll
  exact Stage.Sound.activate ⟨hd.keys, hd.ids⟩

theorem keys_opened {nav : Navigation} {stage : Stage} (h : (stage.surface? screen).isSome = true) :
    (opened screen nav stage).surfaces.keys = stage.surfaces.keys := by
  have hin : stage.deactivateAll.deactivateAll.surfaces.contains screen = true := by
    show (stage.deactivateAll.deactivateAll.surface? screen).isSome = true
    rw [Stage.surface?_deactivateAll, Stage.surface?_deactivateAll, Option.isSome_map, Option.isSome_map, h]
  show (Table.adjust (Table.ensure stage.deactivateAll.deactivateAll.surfaces _ _) _ _).keys = _
  rw [Table.keys_adjust, Table.ensure, if_pos hin]
  simp only [Stage.deactivateAll, Table.keys_mapValues]

theorem sound_arrived (h : s.stage.Sound) : (arrived c docs screen s).stage.Sound := (sound_opened h).replaceRegions _

variable (c docs screen) in
theorem bare_arrived (hbare : s.stage.bare = t.stage.bare) (hpart : s.part = t.part) :
    (arrived c docs screen s).stage.bare = (arrived c docs screen t).stage.bare ∧
      (arrived c docs screen s).part = (arrived c docs screen t).part := by
  have hopened : ∀ nav stage, (opened screen nav stage).bare = opened screen nav stage.bare := by
    intro nav stage
    rw [opened, Stage.bare_activate]
    have h := Stage.bare_deactivateAll stage.beginNavigation
    exact congrArg (fun u : Stage => { u with
      stylesheets := stage.stylesheets ++ nav.unattached (nav.entryOf screen) }.activate screen) h
  have hgeneration : s.stage.bare.generation = t.stage.bare.generation := by rw [hbare]
  change s.stage.generation = t.stage.generation at hgeneration
  refine ⟨?_, ?_⟩
  · show (Stage.replaceRegions _ _ _).1.bare = (Stage.replaceRegions _ _ _).1.bare
    rw [Stage.bare_replaceRegions, Stage.bare_replaceRegions, hopened, hopened, hbare, hpart]
  · simp only [arrived, announce, hpart, hgeneration]

variable (c docs) in
/-- The screen was gone to: it is the only active one, its style sheet is attached, its regions are there, and the
memory has noted it. -/
structure At (screen : ScreenId) (s : Staged Navigation) : Prop where
  alone : s.stage.Alone screen
  regions : s.stage.regions screen = regionsOf docs s.part screen
  attached : s.part.unattached (s.part.entryOf screen) = []
  noted : s.part.memory.note c screen = s.part.memory

theorem alone_opened (screen : ScreenId) (nav : Navigation) (stage : Stage) :
    (opened screen nav stage).Alone screen where
  active := rfl
  fragment := rfl
  surface := ⟨_, by rw [surface?_opened, if_pos rfl], rfl⟩
  others := by
    intro j f hf ha
    rw [surface?_opened] at hf
    split at hf
    · rename_i hj
      exact hj.symm
    · obtain ⟨g, -, rfl⟩ := Option.map_eq_some_iff.1 hf
      cases ha

variable (c screen) in
/-- A style sheet that is attached, or has no name, is not attached again. -/
theorem unattached_noted (nav : Navigation) :
    (noted c screen nav).unattached (nav.entryOf screen) = [] := by
  unfold noted unattached
  cases (nav.entryOf screen).css with
  | none => rfl
  | some href =>
    by_cases hblank : Text.blank href.text = true
    · simp [hblank]
    · by_cases hin : href ∈ nav.styles <;> simp [hblank, hin]

theorem at_arrived : At c docs screen (arrived c docs screen s) where
  alone := (alone_opened screen s.part s.stage).replaceRegions screen _
  regions := by
    show (Stage.replaceRegions _ _ _).1.regions screen = regionsOf docs s.part screen
    rw [Stage.regions_replaceRegions, if_pos ⟨rfl, by rw [surface?_opened, if_pos rfl]; rfl⟩]
  attached := unattached_noted c screen s.part
  noted := by
    show (s.part.memory.note c screen).note c screen = s.part.memory.note c screen
    simp only [Screen.Memory.note]
    cases c.isLibraryScreen screen <;> cases c.isStoryScreen screen <;> rfl

theorem At.of_bare (h : At c docs screen s) (hbare : t.stage.bare = s.stage.bare) (hpart : t.part = s.part) :
    At c docs screen t where
  alone := h.alone.of_bare hbare
  regions := by rw [← Stage.regions_bare, hbare, Stage.regions_bare, h.regions, hpart]
  attached := by rw [hpart]; exact h.attached
  noted := by rw [hpart]; exact h.noted

theorem At.opened_eq (h : At c docs screen s) (hs : s.stage.Sound) :
    opened screen s.part s.stage = s.stage.beginNavigation := by
  obtain ⟨f, hf, ha⟩ := h.alone.surface
  have hsurfaces : (opened screen s.part s.stage).surfaces = s.stage.surfaces := by
    refine Table.ext_of_nodup (sound_opened hs).keys (keys_opened (by rw [hf]; rfl)) fun j => ?_
    show (opened screen s.part s.stage).surface? j = s.stage.surface? j
    rw [surface?_opened]
    split
    · rename_i hj
      subst hj
      rw [hf, Option.getD_some, ← ha]
    · rename_i hj
      cases hx : s.stage.surface? j with
      | none => rfl
      | some g =>
        have hg : g.active = false := Bool.eq_false_iff.2 fun hga => hj (h.alone.others hx hga).symm
        rw [Option.map_some, ← hg]
  have hopened : opened screen s.part s.stage = ⟨(opened screen s.part s.stage).surfaces, some screen,
    s.stage.generation + 1, s.stage.stylesheets ++ s.part.unattached (s.part.entryOf screen), some screen,
    s.stage.scrollLocked⟩ := rfl
  rw [hopened, hsurfaces, h.attached, List.append_nil, Stage.beginNavigation, h.alone.active, h.alone.fragment]

/-- Once more to the same screen opens a generation, and changes nothing else. -/
theorem At.arrived_eq (h : At c docs screen s) (hs : s.stage.Sound) :
    arrived c docs screen s = announce ⟨s.stage.beginNavigation, s.part⟩ ⟨screen, s.stage.generation + 1⟩ := by
  have hnoted : Navigation.noted c screen s.part = s.part := by
    rw [Navigation.noted, h.attached, List.append_nil, h.noted]
  have hregions : (s.stage.beginNavigation.replaceRegions screen (regionsOf docs s.part screen)).1 =
      s.stage.beginNavigation := by
    refine Stage.adjust_eq_self fun f hf => ?_
    have hf : s.stage.surface? screen = some f := hf
    rw [← h.regions, Stage.regions, hf]
  rw [arrived, hnoted, h.opened_eq hs, hregions]

end Gamebook.Navigation
