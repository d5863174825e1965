import Gamebook.Proofs.App.Aside
import Gamebook.Proofs.App.Runs

/-! Where a player is: its screen, its registry, the screens it remembers and the places of its readers. Only
navigations, choices and the last steps of mounts change any of this; delivering transitions and starting
collaborators do not. What a step of a call in flight does to it is said by `spot_resume`. -/
namespace Gamebook

namespace Storybook

open Story (Graph)
open Act

def whereabouts (s : Staged Storybook) : Option ScreenId × Table StoryId NodeId := (s.stage.active, s.part.places)

theorem whereabouts_unmountIfCurrent (v : Visit) (s : Staged Storybook) :
    whereabouts (unmountIfCurrent v s).state = whereabouts s := by
  rw [whereabouts, unmountIfCurrent_active, unmountIfCurrent_state]
  split <;> rfl

theorem whereabouts_unmountExcept (keep : Option ScreenId) (s : Staged Storybook) :
    whereabouts (unmountExcept keep s).state = whereabouts s := by
  rw [whereabouts, unmountExcept_active]
  rfl

theorem unpanelled_whereabouts : Unpanelled whereabouts :=
  ⟨whereabouts_unmountIfCurrent, whereabouts_unmountExcept, fun _ => rfl⟩

/-- What the last step of a mount does to the places of readers, and any other does not. -/
inductive Places (w : Mounting) (saved : StoryId → Option NodeId) (s : Staged Storybook) :
    Option ScreenId × Table StoryId NodeId → Prop
  | same : Places w saved s (whereabouts s)
  | rendered {v : Visit} {graph : Option Graph} {g : Graph} {node : NodeId} : w = .recalling v graph →
      s.stage.isCurrent v.generation v.screen = true → filled? graph = some g →
      resumeNode? g (s.part.places.get? v.story) (saved v.story) = some node →
      Places w saved s (s.stage.active, s.part.places.put v.story node)

theorem places_settle (c : StorySettings) (v : Visit) (graph : Option Graph) (saved : StoryId → Option NodeId)
    (s : Staged Storybook) :
    Places (.recalling v graph) saved s (whereabouts (settle c v graph (saved v.story) s).state) := by
  have h := settles_settle c v graph (saved v.story) s
  generalize settle c v graph (saved v.story) s = made at h ⊢
  cases h with
  | stale => exact .same
  | empty =>
    rw [whereabouts_unmountIfCurrent]
    exact .same
  | rendered _ hcur hfilled hnode => exact .rendered rfl hcur hfilled hnode

end Storybook

def Outside.recalled (env : (r : Request) → r.Reply) (story : StoryId) : Option NodeId :=
  ((env (.place story)).toOption).join

theorem Mounting.places_resume (c : StorySettings) (w : Mounting) (env : (r : Request) → r.Reply)
    (s : Staged Storybook) :
    Storybook.Places w (Outside.recalled env) s
      (Storybook.whereabouts (w.resume c (env w.request) s).state) := by
  match w with
  | .locating v w =>
    have h : Storybook.whereabouts ((Mounting.locating v w).resume c (env w.request) s).state =
        Storybook.whereabouts s := by
      simp only [Mounting.resume, Act.bind_apply]
      exact Storybook.unpanelled_whereabouts.located v _ _
    rw [h]
    exact .same
  | .opening v url =>
    have h : Storybook.whereabouts ((Mounting.opening v url).resume c (env (.document url)) s).state =
        Storybook.whereabouts s := by
      cases env (.document url) with
      | error cause => rfl
      | ok doc =>
        obtain ⟨notices, heq⟩ := Mounting.resume_opening c v url doc s
        rw [heq]
        rfl
    exact h ▸ .same
  | .recalling v graph =>
    have h := Storybook.places_settle c v graph (Outside.recalled env) s
    have hstate : ((Mounting.recalling v graph).resume c (env (.place v.story)) s).state =
        (Storybook.settle c v graph (Outside.recalled env v.story) s).state := by
      unfold Outside.recalled
      cases env (.place v.story) <;> rfl
    show Storybook.Places _ _ _ (Storybook.whereabouts
      ((Mounting.recalling v graph).resume c (env (.place v.story)) s).state)
    rw [hstate]
    exact h

/-- Where a player is, and what it needs to know to go elsewhere. -/
structure Spot where
  active : Option ScreenId
  registry : Option Screen.Registry
  memory : Screen.Memory
  places : Table StoryId NodeId

def Spot.moved (c : NavigationSettings) (registry : Screen.Registry) (route : Screen.Route) (s : Spot) : Spot :=
  match s.memory.resolve route registry with
  | .ok screen => { s with active := some screen, memory := s.memory.note c screen }
  | .error _ => s

namespace App

open Act

def spot (a : App) : Spot where
  active := a.stage.active
  registry := a.navigation.registry
  memory := a.navigation.memory
  places := a.storybook.places

variable (c : Settings) {α : Type}

theorem keeps_reading {x : Act (Staged Storybook) α} (h : Keeps Storybook.whereabouts x) :
    Keeps spot (reading x) := by
  intro a
  obtain ⟨hactive, hplaces⟩ := Prod.mk.inj (h ⟨a.stage, a.storybook⟩)
  simp only [spot, reading, within_apply, hactive, hplaces]

theorem keeps_settle (w : Fitting) (reply : w.request.Reply) :
    Keeps spot (navigating (Navigation.settle w reply)) := by
  intro a
  obtain ⟨hactive, -, hregistry, hmemory⟩ := Navigation.settle_same w reply ⟨a.stage, a.navigation⟩
  simp only [spot, navigating, within_apply, hactive, hregistry, hmemory]

theorem aside_spot : Aside c spot where
  taken _ _ := rfl
  enter change := keeps_reading (Storybook.unpanelled_whereabouts.enter c.navigation change)
  roster _ _ := rfl
  catalog _ _ := rfl
  boots _ _ _ := rfl

end App

def Waiting.Bound : Waiting → Prop
  | .booting (.turn _) => False
  | .booting (.opening (.registry _ _)) => False
  | _ => True

namespace App

open Act

variable {c : Settings}

/-- What a step of a call in flight does to where the player is: only the last step of a mount does
anything, and only to the place of a reader. -/
inductive Spotted (mounts : Multiset Mounting) (recalled : StoryId → Option NodeId) (a : App) : Spot → Prop
  | same : Spotted mounts recalled a a.spot
  | rendered {v : Visit} {graph : Option Story.Graph} {g : Story.Graph} {node : NodeId} :
      .recalling v graph ∈ mounts → a.stage.isCurrent v.generation v.screen = true →
      Storybook.filled? graph = some g →
      Storybook.resumeNode? g (a.storybook.places.get? v.story) (recalled v.story) = some node →
      Spotted mounts recalled a { a.spot with places := a.storybook.places.put v.story node }

theorem spotted_resumePump (env : (r : Request) → r.Reply) (w : Telling) (a : App) :
    Spotted {w.inner} (Outside.recalled env) a (resumePump c w (env w.request) a).state.spot := by
  rw [(aside_spot c).resumePump]
  have h := Mounting.places_resume c.story w.inner env a.stories
  generalize hplaces : Storybook.whereabouts (w.inner.resume c.story (env w.inner.request) a.stories).state =
    places at h
  have hspot : (reading (w.inner.resume c.story (env w.inner.request)) a).state.spot =
      { a.spot with active := places.1, places := places.2 } := by
    rw [← hplaces]
    rfl
  rw [hspot]
  cases h with
  | same => exact .same
  | rendered hw hcur hfilled hnode =>
    exact .rendered (Multiset.mem_singleton.2 hw.symm) hcur hfilled hnode

theorem keeps_saved (w : Saving) (reply : w.request.Reply) : Keeps spot (reading (w.resume reply)) := by
  refine keeps_reading fun s => ?_
  obtain ⟨-, hactive, hpart⟩ := w.same_of_resume reply s
  rw [Storybook.whereabouts, Storybook.whereabouts, hactive, hpart]

theorem spot_resume {first : Catalog} {w : Waiting} (hregular : w.Regular first) (hbound : w.Bound)
    (env : (r : Request) → r.Reply) (a : App) :
    Spotted w.mounts (Outside.recalled env) a (resume c w (env w.request) a).state.spot := by
  have hsame : ∀ {s : Spot}, s = a.spot → Spotted w.mounts (Outside.recalled env) a s := fun h => h ▸ .same
  match w, hregular, hbound with
  | .booting (.opening (.regions f)), _, _ => exact hsame ((aside_spot c).regions (keeps_settle f (env f.request)) a)
  | .booting (.starting w), _, _ => exact hsame ((aside_spot c).starting w (env w.request) a)
  | .booting (.pumping w), _, _ =>
    have hspot : (resume c (.booting (.pumping w)) (env w.request) a).state.spot =
        (resumePump c w (env w.request) a).state.spot := by
      rw [(aside_spot c).resumePump]
      exact (aside_spot c).pumping w (env w.request) a
    exact hspot ▸ spotted_resumePump env w a
  | .going (.following f), _, _ =>
    exact hsame (((aside_spot c).pump _).trans (keeps_settle f (env f.request) a))
  | .tapping (.dispatching f), _, _ =>
    exact hsame (((aside_spot c).pump _).trans (keeps_settle f (env f.request) a))
  | .tapping (.choosing w), _, _ => exact hsame (keeps_saved w (env w.request) a)
  | .saving w, _, _ => exact hsame (keeps_saved w (env w.request) a)
  | .going (.pumping screen w), _, _ => exact spotted_resumePump env w a
  | .tapping (.pumping outcome w), _, _ => exact spotted_resumePump env w a
  | .pumping w, _, _ => exact spotted_resumePump env w a

theorem keeps_boot (link : Option String) : Keeps spot (boot c link) := by
  have hstart : Keeps spot (navigating (Navigation.start c link)) := by
    intro a
    simp only [spot, navigating, within_apply, Navigation.start_state]
  refine .get_bind fun a => ?_
  split
  · exact .pure _
  · refine .get_bind fun a => ?_
    split
    · exact .pure _
    · refine Keeps.bind (x := modify _) (fun _ => rfl) fun _ => hstart.bind fun p => ?_
      cases p with
      | done result => exact (aside_spot c).bootOpened result
      | waiting w => exact .pure _

variable {a : App} {registry : Screen.Registry}

theorem begin_go_of_error (hr : a.navigation.registry = some registry)
    (hq : a.navigation.transitions.Holds a.taken []) {raw : String} {cause : Screen.Refusal}
    (hm : a.navigation.memory.resolve (Screen.Route.ofText c.navigation.aliases raw) registry = .error cause) :
    begin c (.go raw) a = ⟨a, [.refused cause], .done (.screen none)⟩ := by
  have hgo : navigating (Navigation.follow c.navigation raw) a = ⟨a, [.refused cause], .done none⟩ := by
    simp only [navigating, within_apply, Navigation.follow,
      Navigation.go_of_error (s := ⟨a.stage, a.navigation⟩) hr hm]
  simp only [begin, go, thenPump, Act.bind_apply, hgo, pump_nil hq]
  rfl

theorem spot_go (hr : a.navigation.registry = some registry) (route : Screen.Route) :
    (navigating (Navigation.go c.navigation route) a).state.spot =
      a.spot.moved c.navigation registry route := by
  rw [Spot.moved]
  cases hm : a.spot.memory.resolve route registry with
  | error cause =>
    have h := Navigation.go_of_error (c := c.navigation) (s := ⟨a.stage, a.navigation⟩) hr hm
    simp only [navigating, within_apply, h]
  | ok screen =>
    have h := Navigation.moved_go (c := c.navigation) (s := ⟨a.stage, a.navigation⟩) hr hm
    have hregistry := h.registry
    simp only [navigating, spot, within_apply, h.active, hregistry, h.memory]

/-- An accepted navigation shows its screen at once, and then waits or is delivered. -/
theorem spot_begin_go (hr : a.navigation.registry = some registry) (raw : String) :
    (begin c (.go raw) a).state.spot =
      a.spot.moved c.navigation registry (Screen.Route.ofText c.navigation.aliases raw) := by
  rw [← spot_go (c := c) hr]
  show (go c raw a).state.spot = (navigating (Navigation.follow c.navigation raw) a).state.spot
  simp only [go, Act.bind_apply]
  cases (navigating (Navigation.follow c.navigation raw) a).value with
  | done v => exact (aside_spot c).pump _
  | waiting w => rfl

theorem spot_enter (link : Option String) :
    (navigating (Navigation.enter c.navigation registry link) a).state.spot =
      Spot.moved c.navigation registry
        (.screen (Navigation.first c.navigation registry link a.navigation.memory))
        { a.spot with registry := some registry } := by
  obtain ⟨-, hactive, -⟩ := Stage.ensureAll_same a.stage registry.ids
  -- the player before it goes anywhere
  let b : App := { a with
    stage := registry.ids.foldl Stage.ensure a.stage
    navigation := { a.navigation with registry := some registry } }
  have hspot : b.spot = { a.spot with registry := some registry } := by
    simp only [spot, b, hactive]
  have henter := (Navigation.enter_eq c.navigation registry link ⟨a.stage, a.navigation⟩).1
  rw [← hspot, ← spot_go (c := c) (a := b) rfl]
  simp only [navigating, within_apply, henter]
  rfl

theorem spot_registry {path : String} {reply : Except SourceFault Json.Value}
    (hloaded : Screen.Registry.ofReply path reply = .ok registry) (link : Option String) (a : App) :
    (Booting.resume c (.opening (.registry path link)) reply a).state.spot =
      Spot.moved c.navigation registry
        (.screen (Navigation.first c.navigation registry link a.navigation.memory))
        { a.spot with registry := some registry } := by
  rw [(aside_spot c).registry hloaded, spot_enter]

end App
end Gamebook
