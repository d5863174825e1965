import Gamebook.Navigation
import Gamebook.Proofs.Stage.Surfaces

/-! What the steps of a navigation do. A navigation is refused and changes nothing, or it departs for a
screen; then it waits for regions, or arrives at once. What holds of departing, of going and of settling
is said here once: `departed_depart`, `went_go` and `settle_state`. -/
namespace Gamebook

/-- The regions that a reply to a fetch asks for: none if the document could not be had. -/
def Fitting.regions : Except SourceFault Json.Value → List Stage.Region
  | .ok doc => (Stage.Hitbox.ofDocument doc).map Stage.Hitbox.region
  | .error _ => []

def Fitting.change (w : Fitting) : ScreenChange := ⟨w.screen, w.generation⟩

theorem Fitting.resume_state (w : Fitting) (reply : w.request.Reply) (s : Stage) :
    (w.resume reply s).state =
      if s.isCurrent w.generation w.screen then (s.replaceRegions w.screen (regions reply)).1 else s := by
  simp only [Fitting.resume, Act.bind_get, Act.ite_apply]
  split
  · cases reply with
    | error cause => rfl
    | ok doc =>
      simp only [Act.bind_apply, Act.set_apply, Act.ite_apply]
      split <;> rfl
  · rfl

namespace Navigation

def announce (s : Staged Navigation) (change : ScreenChange) : Staged Navigation :=
  { s with part := { s.part with transitions := s.part.transitions.send change } }

structure Departed (c : NavigationSettings) (screen : ScreenId) (s t : Staged Navigation) : Prop where
  generation : t.stage.generation = s.stage.generation + 1
  active : t.stage.active = some screen
  fragment : t.stage.fragment = some screen
  locked : t.stage.scrollLocked = s.stage.scrollLocked
  surface : ∀ j, t.stage.surface? j =
    if screen = j then some { (s.stage.surface? screen).getD { id := screen } with active := true }
    else (s.stage.surface? j).map fun f => { f with active := false }
  panel : ∀ j, t.stage.panel? j = s.stage.panel? j
  sound : s.stage.Sound → t.stage.Sound
  registry : t.part.registry = s.part.registry
  memory : t.part.memory = s.part.memory.note c screen
  transitions : t.part.transitions = s.part.transitions

theorem loadStyle_state (href : Resource) (s : Staged Navigation) :
    ∃ sheets styles, (loadStyle href s).state =
      ⟨{ s.stage with stylesheets := sheets }, { s.part with styles := styles }⟩ := by
  simp only [loadStyle, Act.bind_get, Act.ite_apply]
  split
  · exact ⟨s.stage.stylesheets, s.part.styles, rfl⟩
  · exact ⟨s.stage.stylesheets ++ [href], s.part.styles ++ [href], rfl⟩

theorem depart_state (c : NavigationSettings) (screen : ScreenId) (entry : Screen.Entry)
    (s : Staged Navigation) :
    ∃ sheets styles, (depart c screen entry s).state =
      ⟨Stage.activate { s.stage.beginNavigation.deactivateAll with stylesheets := sheets } screen,
        { s.part with styles := styles, memory := s.part.memory.note c screen }⟩ := by
  unfold depart
  cases entry.css with
  | none => exact ⟨s.stage.stylesheets, s.part.styles, rfl⟩
  | some href =>
    obtain ⟨sheets, styles, h⟩ :=
      loadStyle_state href ⟨s.stage.beginNavigation.deactivateAll, s.part⟩
    refine ⟨sheets, styles, ?_⟩
    simp only [Act.bind_apply, Staged.onStage_apply, Staged.onPart_apply, Act.modify_apply, Act.get_apply,
      Act.pure_apply, h]

theorem departed_depart (c : NavigationSettings) (screen : ScreenId) (entry : Screen.Entry)
    (s : Staged Navigation) : Departed c screen s (depart c screen entry s).state := by
  obtain ⟨sheets, styles, h⟩ := depart_state c screen entry s
  rw [h]
  refine ⟨rfl, rfl, rfl, rfl, fun j => ?_, fun j => ?_, fun hs => ?_, rfl, rfl, rfl⟩
  · rw [Stage.surface?_activate]
    show (if screen = j then
        some { (s.stage.deactivateAll.surface? screen).getD { id := screen } with active := true }
      else (s.stage.deactivateAll.surface? j).map fun f => { f with active := false }) = _
    rw [Stage.surface?_deactivateAll, Stage.surface?_deactivateAll]
    cases s.stage.surface? screen <;> cases s.stage.surface? j <;> rfl
  · rw [Stage.panel?_activate]
    exact Stage.panel?_deactivateAll s.stage j
  · have hd : s.stage.deactivateAll.Sound := hs.deactivateAll
    exact Stage.Sound.activate ⟨hd.keys, hd.ids⟩

theorem depart_value (c : NavigationSettings) (screen : ScreenId) (entry : Screen.Entry)
    (s : Staged Navigation) :
    (depart c screen entry s).value = (depart c screen entry s).state.stage.generation := by
  unfold depart
  cases entry.css <;> rfl

def document? (registry : Screen.Registry) (screen : ScreenId) : Option Resource :=
  ((registry.entry? screen).getD {}).hitboxes

theorem go_of_error {c : NavigationSettings} {route : Screen.Route} {s : Staged Navigation}
    {registry : Screen.Registry} (hr : s.part.registry = some registry) {cause : Screen.Refusal}
    (hm : s.part.memory.resolve route registry = .error cause) :
    go c route s = ⟨s, [.refused cause], .done none⟩ := by
  simp only [go, Act.bind_get, hr, hm]
  rfl

/-- All that a navigation to a screen can come to in its first step: it waits for the regions, or is announced. -/
inductive Gone (c : NavigationSettings) (registry : Screen.Registry) (screen : ScreenId) (s : Staged Navigation) :
    Made (Staged Navigation) (Progress Fitting (Option ScreenId)) → Prop
  | departed {document : Resource} {t : Staged Navigation} (notices : List Notice) :
      document? registry screen = some document → Departed c screen s t →
      Gone c registry screen s ⟨t, notices, .waiting ⟨document, screen, t.stage.generation⟩⟩
  | arrived {t : Staged Navigation} (notices : List Notice) : document? registry screen = none →
      Departed c screen s t →
      Gone c registry screen s ⟨announce { t with stage := (t.stage.replaceRegions screen []).1 }
        ⟨screen, t.stage.generation⟩, notices, .done (some screen)⟩

theorem gone_go {c : NavigationSettings} {route : Screen.Route} {s : Staged Navigation}
    {registry : Screen.Registry} (hr : s.part.registry = some registry) {screen : ScreenId}
    (hm : s.part.memory.resolve route registry = .ok screen) : Gone c registry screen s (go c route s) := by
  have hd := departed_depart c screen ((registry.entry? screen).getD {}) s
  have hv := depart_value c screen ((registry.entry? screen).getD {}) s
  simp only [go, Act.bind_get, hr, hm]
  cases hh : ((registry.entry? screen).getD {}).hitboxes with
  | some document =>
    simp only [Act.bind_apply, Act.pure_apply, hv]
    exact .departed _ hh hd
  | none =>
    simp only [Act.bind_apply, Act.pure_apply, hv, arrive, Staged.onStage_apply, Staged.onPart_apply,
      Act.modify_apply]
    exact .arrived _ hh hd

inductive Went (c : NavigationSettings) (s : Staged Navigation) :
    Made (Staged Navigation) (Progress Fitting (Option ScreenId)) → Prop
  | refused (notices : List Notice) : Went c s ⟨s, notices, .done none⟩
  | departed {registry : Screen.Registry} {screen : ScreenId} {document : Resource}
      {t : Staged Navigation} (notices : List Notice) : s.part.registry = some registry →
      registry.contains screen = true → document? registry screen = some document →
      Departed c screen s t → Went c s ⟨t, notices, .waiting ⟨document, screen, t.stage.generation⟩⟩
  | arrived {registry : Screen.Registry} {screen : ScreenId} {t : Staged Navigation}
      (notices : List Notice) : s.part.registry = some registry →
      registry.contains screen = true → document? registry screen = none → Departed c screen s t →
      Went c s ⟨announce { t with stage := (t.stage.replaceRegions screen []).1 }
        ⟨screen, t.stage.generation⟩, notices, .done (some screen)⟩

theorem went_go (c : NavigationSettings) (route : Screen.Route) (s : Staged Navigation) :
    Went c s (go c route s) := by
  cases hr : s.part.registry with
  | none =>
    simp only [go, Act.bind_get, hr]
    exact .refused _
  | some registry =>
    cases hm : s.part.memory.resolve route registry with
    | error cause =>
      rw [go_of_error hr hm]
      exact .refused _
    | ok screen =>
      have hin := ((Screen.Memory.resolve_eq_ok_iff ..).1 hm).2
      have hgone := gone_go (c := c) hr hm
      generalize go c route s = made at hgone ⊢
      cases hgone with
      | departed _ hh hd => exact .departed _ hr hin hh hd
      | arrived _ hh hd => exact .arrived _ hr hin hh hd

theorem settle_state (w : Fitting) (reply : w.request.Reply) (s : Staged Navigation) :
    (settle w reply s).state = announce { s with stage := (w.resume reply s.stage).state } w.change := by
  simp only [settle, Act.bind_apply, Staged.onStage_apply]
  cases (w.resume reply s.stage).value <;> rfl

theorem settle_value (w : Fitting) (reply : w.request.Reply) (s : Staged Navigation) :
    (settle w reply s).value = some w.screen := by
  simp only [settle, Act.bind_apply, Staged.onStage_apply]
  cases (w.resume reply s.stage).value <;> rfl

theorem settle_same (w : Fitting) (reply : w.request.Reply) (s : Staged Navigation) :
    (settle w reply s).state.stage.active = s.stage.active ∧
    (settle w reply s).state.stage.generation = s.stage.generation ∧
    (settle w reply s).state.part.registry = s.part.registry ∧
    (settle w reply s).state.part.memory = s.part.memory := by
  simp only [settle_state, announce, Fitting.resume_state]
  split <;> simp [Stage.replaceRegions, Stage.adjust]

/-- A first navigation shows nothing before the registry has come. -/
theorem start_state (c : Settings) (link : Option String) (s : Staged Navigation) : (start c link s).state = s := by
  simp only [start, Act.bind_get]
  cases s.part.registry <;> rfl

theorem firstScreen_state (c : NavigationSettings) (registry : Screen.Registry) (link : Option String)
    (s : Staged Navigation) : (firstScreen c registry link s).state = s := by
  unfold firstScreen
  cases link.bind Text.trimmed? with
  | none => rfl
  | some link =>
    simp only [Act.bind_get]
    cases s.part.memory.resolve (Screen.Route.ofText c.aliases link) registry <;> rfl

theorem Departed.alone {c : NavigationSettings} {screen : ScreenId} {s t : Staged Navigation}
    (h : Departed c screen s t) : t.stage.Alone screen where
  active := h.active
  fragment := h.fragment
  surface := ⟨_, by rw [h.surface, if_pos rfl], rfl⟩
  others := by
    intro j f hf ha
    rw [h.surface] at hf
    split at hf
    · rename_i hj
      exact hj.symm
    · obtain ⟨g, -, rfl⟩ := Option.map_eq_some_iff.1 hf
      cases ha

structure Moved (c : NavigationSettings) (screen : ScreenId) (s : Staged Navigation)
    (made : Made (Staged Navigation) (Progress Fitting (Option ScreenId))) : Prop where
  active : made.state.stage.active = some screen
  registry : made.state.part.registry = s.part.registry
  memory : made.state.part.memory = s.part.memory.note c screen
  generation : made.state.stage.generation = s.stage.generation + 1
  alone : made.state.stage.Alone screen
  value : made.value = .done (some screen) ∨ ∃ f, made.value = .waiting f ∧ f.screen = screen

variable {c : NavigationSettings} {route : Screen.Route} {s : Staged Navigation} {registry : Screen.Registry}

theorem moved_go (hr : s.part.registry = some registry) {screen : ScreenId}
    (hm : s.part.memory.resolve route registry = .ok screen) : Moved c screen s (go c route s) := by
  have hgone := gone_go (c := c) hr hm
  generalize go c route s = made at hgone ⊢
  cases hgone with
  | departed _ _ hd => exact ⟨hd.active, hd.registry, hd.memory, hd.generation, hd.alone, .inr ⟨_, rfl, rfl⟩⟩
  | arrived _ _ hd =>
    exact ⟨hd.active, hd.registry, hd.memory, hd.generation, hd.alone.replaceRegions screen [], .inl rfl⟩

def first (c : NavigationSettings) (registry : Screen.Registry) (link : Option String)
    (memory : Screen.Memory) : ScreenId :=
  match link.bind Text.trimmed? with
  | none => registry.start
  | some link =>
    match memory.resolve (Screen.Route.ofText c.aliases link) registry with
    | .ok screen => screen
    | .error _ => registry.start

theorem firstScreen_value (c : NavigationSettings) (registry : Screen.Registry) (link : Option String)
    (s : Staged Navigation) : (firstScreen c registry link s).value = first c registry link s.part.memory := by
  unfold firstScreen first
  cases link.bind Text.trimmed? with
  | none => rfl
  | some link =>
    simp only [Act.bind_get]
    cases s.part.memory.resolve (Screen.Route.ofText c.aliases link) registry <;> rfl

/-- A registry that has come is kept, and its screens have their surfaces. -/
def entered (registry : Screen.Registry) (s : Staged Navigation) : Staged Navigation :=
  ⟨registry.ids.foldl Stage.ensure s.stage, { s.part with registry := some registry }⟩

theorem enter_eq (c : NavigationSettings) (registry : Screen.Registry) (link : Option String)
    (s : Staged Navigation) :
    (enter c registry link s).state =
      (go c (.screen (first c registry link s.part.memory)) (entered registry s)).state ∧
    (enter c registry link s).value =
      (go c (.screen (first c registry link s.part.memory)) (entered registry s)).value.map
        Opening.regions fun _ => .ok () := by
  have hstate := firstScreen_state c registry link (entered registry s)
  have hvalue : (firstScreen c registry link (entered registry s)).value =
      first c registry link s.part.memory :=
    firstScreen_value c registry link (entered registry s)
  have henter : enter c registry link s =
      (do
        let screen ← firstScreen c registry link
        return (← go c (.screen screen)).map Opening.regions fun _ => (.ok () : Except LoadFault Unit))
      (entered registry s) := rfl
  rw [henter]
  simp only [Act.bind_apply, hstate, hvalue]
  exact ⟨rfl, rfl⟩

theorem went_enter (c : NavigationSettings) (registry : Screen.Registry) (link : Option String)
    (s : Staged Navigation) :
    ∃ made, Went c (entered registry s) made ∧ (enter c registry link s).state = made.state ∧
      (enter c registry link s).value = made.value.map Opening.regions fun _ => .ok () :=
  ⟨_, went_go c _ _, enter_eq c registry link s⟩

inductive Entered (c : NavigationSettings) (registry : Screen.Registry) (screen : ScreenId)
    (s : Staged Navigation) (made : Made (Staged Navigation) (Progress Opening (Except LoadFault Unit))) : Prop
  | moved {going : Made (Staged Navigation) (Progress Fitting (Option ScreenId))} :
      registry.contains screen = true → Moved c screen (entered registry s) going → made.state = going.state →
      made.value = going.value.map Opening.regions (fun _ => .ok ()) → Entered c registry screen s made
  | refused : registry.contains screen = false → made.state = entered registry s →
      made.value = .done (.ok ()) → Entered c registry screen s made

theorem entered_enter (c : NavigationSettings) (registry : Screen.Registry) (link : Option String)
    (s : Staged Navigation) :
    Entered c registry (first c registry link s.part.memory) s (enter c registry link s) := by
  obtain ⟨hstate, hvalue⟩ := enter_eq c registry link s
  generalize first c registry link s.part.memory = screen at hstate hvalue ⊢
  have hregistry : (entered registry s).part.registry = some registry := rfl
  cases hin : registry.contains screen with
  | true =>
    have hresolve : (entered registry s).part.memory.resolve (.screen screen) registry = .ok screen :=
      (Screen.Memory.resolve_eq_ok_iff ..).2 ⟨rfl, hin⟩
    exact .moved hin (moved_go hregistry hresolve) hstate hvalue
  | false =>
    have hresolve : (entered registry s).part.memory.resolve (.screen screen) registry =
        .error (.unknownScreen screen) := by
      simp [Screen.Memory.resolve, Screen.Memory.lookUp?, hin]
    rw [go_of_error hregistry hresolve] at hstate hvalue
    exact .refused hin hstate hvalue

end Navigation

namespace Opening

variable {path : String} {reply : Except SourceFault Json.Value}

theorem resume_of_error (c : Settings) (link : Option String) {cause : LoadFault}
    (h : Screen.Registry.ofReply path reply = .error cause) :
    (registry path link).resume c reply = pure (.done (.error cause)) := by
  simp only [Opening.resume, h]

theorem resume_of_ok (c : Settings) (link : Option String) {loaded : Screen.Registry}
    (h : Screen.Registry.ofReply path reply = .ok loaded) :
    (registry path link).resume c reply = Navigation.enter c.navigation loaded link := by
  simp only [Opening.resume, h]

end Opening
end Gamebook
