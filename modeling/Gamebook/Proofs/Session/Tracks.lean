import Gamebook.Proofs.App.Choices
import Gamebook.Proofs.Session.Calls
import Gamebook.Proofs.Session.Walker

/-! Players in step with walkers. Between two calls a player is where a walker is: `Tracks`. During a call it
may have shown the story on its screen yet or not: `Arriving`. A call to go somewhere, a choice and a boot
each bring both of them on by one turn. -/
namespace Gamebook

open Story (Graph)

def Walker.spot (screens : Screen.Registry) (w : Walker) : Spot where
  active := w.screen
  registry := some screens
  memory := w.memory
  places := w.nodes

namespace Session

open App

variable {docs : String → Except SourceFault Json.Value} {c : Settings} {catalog : Catalog}
variable {lib : Library} {w : Walker} {s : Session}

theorem readable_recalled (hstore : s.outside.store = .memory w.marks (!lib.readable) false) (story : StoryId) :
    Outside.recalled (fun r => (s.outside.answer r).1) story = w.mark? lib story := by
  show ((s.outside.loadPlace story).toOption).join = _
  rw [Outside.loadPlace, hstore, Walker.mark?]
  cases lib.readable <;> rfl

/-- The answer to a navigation, or to a boot that had its registry. -/
inductive Arrives : Gamebook.Answer → Prop
  | screen (screen : Option ScreenId) : Arrives (.screen screen)
  | loaded : Arrives (.loaded (.ok ()))

theorem request_ne_savePlace {first : Catalog} {x : Waiting} (hregular : x.Regular first)
    (houtcome : Arrives x.outcome) (story : StoryId) (node : NodeId) : x.request ≠ .savePlace story node := by
  have hmount : ∀ m : Mounting, m.request ≠ .savePlace story node := fun m h => by cases m <;> cases h
  match x, hregular with
  | .booting (.turn _), _ => nofun
  | .booting (.opening (.registry _ _)), _ => nofun
  | .booting (.opening (.regions _)), _ => nofun
  | .booting (.starting _), _ => nofun
  | .booting (.pumping t), _ => exact hmount t.inner
  | .going (.following _), _ => nofun
  | .going (.pumping _ t), _ => exact hmount t.inner
  | .tapping _, _ => nomatch houtcome
  | .saving _, _ => nomatch houtcome
  | .pumping t, _ => exact hmount t.inner

theorem Alone.hears {answer : Gamebook.Answer} (h : Alone c catalog docs s (.done answer))
    (hanswer : Arrives answer) : s.app.hears = true := by
  rcases h.stands with hhears | ⟨x, hx⟩ | ⟨result, hresult, hok⟩
  · exact hhears
  · cases hx
  · cases hanswer with
    | screen => cases hresult
    | loaded =>
      cases hresult
      exact hok rfl

variable (c lib) in
/-- The player is on the screen of a walker, and the story there may have been shown yet or not. -/
structure Arriving (w : Walker) (s : Session) : Prop where
  waiting : s.waiting = []
  store : s.outside.store = .memory w.marks (!lib.readable) false
  spot : s.app.spot = w.spot lib.screens ∨ s.app.spot = (w.attend c.navigation lib).spot lib.screens

/-- A mount that ends shows the story where a walker goes on with it. -/
theorem Arriving.replied {x : Waiting} (h : Arriving c lib w s)
    (hgraph : lib.graph? = storyGraph? docs c.story catalog) (hsound : w.Sound lib)
    (halone : Alone c catalog docs s (.waiting x)) (hbound : x.Bound)
    (houtcome : Arrives x.outcome) : Arriving c lib w (replied c x s).state := by
  obtain ⟨told, queue, haloft, -⟩ := halone.aloft
  rw [Progress.pending_waiting] at haloft
  have hregular := haloft.regular x (Multiset.mem_singleton_self x)
  refine ⟨h.waiting, (Outside.store_answer (request_ne_savePlace hregular houtcome)).trans h.store, ?_⟩
  have hspot := spot_resume (c := c) hregular hbound (fun r => (s.outside.answer r).1) s.app
  show (App.resume c x (s.outside.answer x.request).1 s.app).state.spot = _ ∨
    (App.resume c x (s.outside.answer x.request).1 s.app).state.spot = _
  generalize (App.resume c x (s.outside.answer x.request).1 s.app).state.spot = spot at hspot
  cases hspot with
  | same => exact h.spot
  | @rendered v graph g node hv hcur hfilled hnode =>
    right
    have hapt := (haloft.kept.tells.apt _ (Multiset.mem_bind.2 ⟨x, Multiset.mem_singleton_self x, hv⟩)).2
    have hends := Ends.read hapt.fetched
    rw [hfilled] at hends
    have hg : lib.graph? v.story = some g := by
      rw [hgraph]
      exact hends.eq_storyGraph?.symm
    rw [readable_recalled h.store] at hnode
    -- whether the story was shown before or not, it goes on at its node
    obtain ⟨w', hsound', hmarks, hattend, hw'⟩ : ∃ w' : Walker, w'.Sound lib ∧ w'.marks = w.marks ∧
        w'.attend c.navigation lib = w.attend c.navigation lib ∧ s.app.spot = w'.spot lib.screens := by
      rcases h.spot with hw | hw
      · exact ⟨w, hsound, rfl, rfl, hw⟩
      · exact ⟨_, hsound.attend, Walker.marks_attend w, Walker.attend_attend w, hw⟩
    have hactive : w'.screen = some v.screen :=
      (congrArg Spot.active hw').symm.trans ((Stage.isCurrent_iff ..).1 hcur).2
    have hstory := Walker.story?_of_screen hactive hapt.story hg
    have hmark : w.mark? lib v.story = w'.mark? lib v.story := by rw [Walker.mark?, Walker.mark?, hmarks]
    have hplaces : s.app.storybook.places = w'.nodes := congrArg Spot.places hw'
    rw [hplaces, hmark, hsound'.resumeNode?_eq hg] at hnode
    rw [← hattend, Walker.attend_of_story hstory hnode, hw', hplaces]
    rfl

variable (docs c catalog lib) in
/-- A player that was booted, and has no call under way, is where a walker is. -/
structure Tracks (w : Walker) (s : Session) : Prop where
  alone : ∃ answer, Alone c catalog docs s (.done answer)
  hears : s.app.hears = true
  waiting : s.waiting = []
  store : s.outside.store = .memory w.marks (!lib.readable) false
  spot : s.app.spot = w.spot lib.screens
  sound : w.Sound lib

/-- What is due on the screen is the story that a walker finds there. -/
theorem due?_eq (hgraph : lib.graph? = storyGraph? docs c.story catalog)
    (hspot : s.app.spot = w.spot lib.screens) :
    due? docs c catalog s.app =
      (w.story? c.navigation lib).bind fun e => w.screen.map fun screen => ⟨e.1, screen, e.2⟩ := by
  have hactive : s.app.stage.active = w.screen := congrArg Spot.active hspot
  rw [due?, Walker.story?, hactive, hgraph]
  cases w.screen with
  | none => rfl
  | some screen =>
    simp only [Option.bind_eq_bind, Option.bind_some, Option.map_some]
    cases c.navigation.storyOf? screen with
    | none => rfl
    | some story =>
      simp only [Option.bind_some]
      cases storyGraph? docs c.story catalog story <;> rfl

structure Showing (c : Settings) (w : Walker) (s : Session) (story : StoryId) (g : Graph) (screen : ScreenId)
    (p : Stage.Panel) : Prop where
  active : w.screen = some screen
  place : w.nodes.get? story = some p.node
  mounted : s.app.storybook.mounted = some ⟨story, screen, g⟩
  panel : s.app.stage.panel? screen = some p
  tells : p.Tells c.story ⟨story, screen, g⟩ s.app.storybook.places

structure Follows (c : Settings) (lib : Library) (w : Walker) (s : Session) : Prop where
  waiting : s.waiting = []
  screen : s.app.stage.active = w.screen
  places : s.app.storybook.places = w.nodes
  marks : s.outside.store = .memory w.marks (!lib.readable) false
  shown : ∀ story g, w.story? c.navigation lib = some (story, g) →
    ∃ screen p, Showing c w s story g screen p
  bare : w.story? c.navigation lib = none → Bare s.app

section Landed

variable (hgraph : lib.graph? = storyGraph? docs c.story catalog)

include hgraph

theorem exists_showing {answer : Gamebook.Answer} (halone : Alone c catalog docs s (.done answer))
    (hspot : s.app.spot = w.spot lib.screens) {story : StoryId} {g : Graph}
    (hstory : w.story? c.navigation lib = some (story, g)) : ∃ screen p, Showing c w s story g screen p := by
  obtain ⟨screen, hscreen, -, -⟩ := Walker.story?_eq_some hstory
  have hdue : due? docs c catalog s.app = some ⟨story, screen, g⟩ := by
    rw [due?_eq hgraph hspot, hstory, hscreen]
    rfl
  obtain ⟨told, hkept, -⟩ := halone.kept
  obtain ⟨hmounted, p, hp, -⟩ := halone.showsDue.shown _ hdue
  obtain ⟨m, hm, -, htells⟩ := hkept.tells.shown.tells hp
  obtain rfl := Option.some.inj (hm.symm.trans hmounted)
  have hplaces : s.app.storybook.places = w.nodes := congrArg Spot.places hspot
  exact ⟨screen, p, hscreen, hplaces ▸ htells.place, hmounted, hp, htells⟩

theorem Tracks.follows (h : Tracks docs c catalog lib w s) : Follows c lib w s := by
  obtain ⟨answer, halone⟩ := h.alone
  refine ⟨h.waiting, congrArg Spot.active h.spot, congrArg Spot.places h.spot, h.store,
    fun story g hstory => ?_, fun hnone => ?_⟩
  · exact exists_showing hgraph halone h.spot hstory
  · refine halone.showsDue.bare ?_
    rw [due?_eq hgraph h.spot, hnone]
    rfl

theorem Arriving.tracks {answer : Gamebook.Answer} (h : Arriving c lib w s) (hsound : w.Sound lib)
    (halone : Alone c catalog docs s (.done answer)) (hhears : s.app.hears = true) :
    Tracks docs c catalog lib (w.attend c.navigation lib) s := by
  refine ⟨⟨answer, halone⟩, hhears, h.waiting, ?_, ?_, hsound.attend⟩
  · rw [Walker.marks_attend]
    exact h.store
  · rcases h.spot with hspot | hspot
    · rw [hspot]
      cases hstory : w.story? c.navigation lib with
      | none => simp only [Walker.attend, hstory]
      | some e =>
        obtain ⟨screen, p, hshowing⟩ := exists_showing hgraph halone hspot hstory
        rw [Walker.attend_of_node hstory hshowing.place]
    · exact hspot

/-- A call that brings the player to a screen, up to its end. -/
theorem exists_arrival {p : Progress Waiting Gamebook.Answer} {n : Nat} {answer : Gamebook.Answer}
    (h : Arriving c lib w s) (hsound : w.Sound lib) (halone : Alone c catalog docs s p)
    (hanswer : Arrives answer) (hp : Due answer n p) :
    ∃ t notices, advance c n (p.map .player .player) s = ⟨t, notices, .done (.player answer)⟩ ∧
      Tracks docs c catalog lib (w.attend c.navigation lib) t := by
  obtain ⟨t, notices, hadvance, ht, harrived⟩ := exists_answer (I := Arriving c lib w)
    (fun s x houtcome hbound hx hs => hs.replied hgraph hsound hx hbound (houtcome ▸ hanswer)) halone hp h
  exact ⟨t, notices, hadvance, harrived.tracks hgraph hsound ht (ht.hears hanswer)⟩

theorem Tracks.go (h : Tracks docs c catalog lib w s) (number : Nat) (raw : String) :
    ∃ t notices, Session.call c number (.player (.go raw)) s =
        ⟨t, notices, .done (.player (.screen (w.go c.navigation lib raw).1))⟩ ∧
      Tracks docs c catalog lib (w.go c.navigation lib raw).2 t := by
  obtain ⟨answer, halone⟩ := h.alone
  obtain ⟨told, hkept, -⟩ := halone.kept
  have hregistry : s.app.navigation.registry = some lib.screens := congrArg Spot.registry h.spot
  have hmemory : s.app.navigation.memory = w.memory := congrArg Spot.memory h.spot
  have hbegun : Alone c catalog docs { s with app := (App.begin c (.go raw) s.app).state }
    (App.begin c (.go raw) s.app).value := halone.begin trivial h.hears
  have hspot := spot_begin_go (c := c) hregistry raw
  unfold Walker.go Walker.goTo
  rw [← hmemory]
  cases hm : s.app.navigation.memory.resolve (Screen.Route.ofText c.navigation.aliases raw) lib.screens with
  | error cause =>
    have hbegin := begin_go_of_error (c := c) hregistry hkept.channel hm
    have hadvance : ∃ notices, advance c s.patience
        ((App.begin c (.go raw) s.app).value.map .player .player)
        { s with app := (App.begin c (.go raw) s.app).state } =
          ⟨s, notices, .done (.player (.screen none))⟩ := by
      rw [hbegin]
      exact ⟨[], advance_done ..⟩
    obtain ⟨notices, hcall⟩ := call_of_advance (.go raw) number hadvance
    exact ⟨s, notices, hcall, h⟩
  | ok screen =>
    have harriving : Arriving c lib (w.move c.navigation screen)
        { s with app := (App.begin c (.go raw) s.app).state } := by
      refine ⟨h.waiting, h.store, .inl ?_⟩
      rw [hspot, Spot.moved]
      have hm : s.app.spot.memory.resolve (Screen.Route.ofText c.navigation.aliases raw) lib.screens =
        .ok screen := hm
      rw [hm, h.spot]
      rfl
    have hdue : Due (.screen (some screen)) s.patience (App.begin c (.go raw) s.app).value :=
      due_begin_go hregistry hm (Nat.le_trans (by decide) s.le_patience)
    obtain ⟨t, notices, hadvance, ht⟩ := exists_arrival hgraph harriving h.sound hbegun (.screen _) hdue
    obtain ⟨notices, hcall⟩ := call_of_advance (.go raw) number ⟨notices, hadvance⟩
    exact ⟨t, notices, hcall, ht⟩

theorem Tracks.chosen?_eq (h : Tracks docs c catalog lib w s) (slot : Nat) :
    (Storybook.chosen? s.app.stories slot).map (fun chosen => (chosen.1.story, chosen.2)) =
      w.option? c.navigation lib slot := by
  have hfollows := h.follows hgraph
  have hchosen : Storybook.chosen? s.app.stories slot = s.app.storybook.mounted.bind fun m =>
    (Storybook.target? s.app.stories m slot).map fun target => (m, target) := rfl
  unfold Walker.option?
  cases hstory : w.story? c.navigation lib with
  | none =>
    rw [hchosen, (hfollows.bare hstory).mounted]
    rfl
  | some e =>
    obtain ⟨story, g⟩ := e
    obtain ⟨screen, p, hshowing⟩ := hfollows.shown story g hstory
    obtain ⟨-, -, -, hg⟩ := Walker.story?_eq_some hstory
    rw [hgraph] at hg
    have htarget := hshowing.tells.target? (s := s.app.stories) (hfollows.screen.trans hshowing.active)
      hshowing.panel (target_mem_ids_of_storyGraph? hg) slot
    rw [hchosen, hshowing.mounted, Option.bind_some, htarget]
    simp only [Option.bind_eq_bind, Option.bind_some, hshowing.place]
    cases g.scene? p.node with
    | none => rfl
    | some scene =>
      simp only [Option.bind_some]
      cases (scene.options.take 4)[slot]? <;> rfl

theorem Tracks.choose_nothing (h : Tracks docs c catalog lib w s) (number slot : Nat)
    (hnone : w.option? c.navigation lib slot = none) :
    ∃ notices, Session.call c number (.player (.choose slot)) s =
      ⟨s, notices, .done (.player (.node none))⟩ := by
  have hnothing := (h.chosen?_eq hgraph slot).trans hnone
  refine call_of_advance (.choose slot) number ?_
  rw [begin_choose_of_none (Option.map_eq_none_iff.1 hnothing)]
  exact ⟨[], advance_done ..⟩

theorem contains_of_option? {slot : Nat} {story : StoryId} {target : NodeId}
    (h : w.option? c.navigation lib slot = some (story, target)) :
    ∃ g, lib.graph? story = some g ∧ g.contains target = true := by
  obtain ⟨g, node, scene, choice, hstory, -, hscene, hchoice, rfl⟩ := Walker.option?_eq_some h
  obtain ⟨-, -, -, hg⟩ := Walker.story?_eq_some hstory
  refine ⟨g, hg, (Graph.contains_iff ..).2 ?_⟩
  rw [hgraph] at hg
  exact target_mem_ids_of_storyGraph? hg hscene choice (List.mem_of_mem_take (List.mem_of_getElem? hchoice))

theorem Tracks.choose_some (h : Tracks docs c catalog lib w s) (number slot : Nat) {story : StoryId}
    {target : NodeId} (hsome : w.option? c.navigation lib slot = some (story, target)) :
    ∃ t notices, Session.call c number (.player (.choose slot)) s =
        ⟨t, notices, .done (.player (.node (some target)))⟩ ∧
      Tracks docs c catalog lib (w.choose c.navigation lib slot).2 t ∧
      ∃ screen p, w.screen = some screen ∧ t.app.stage.panel? screen = some p ∧ p.story = story ∧
        p.node = target ∧ p.scrollTop = 0 := by
  obtain ⟨answer, halone⟩ := h.alone
  obtain ⟨⟨m, target⟩, hchosen, he⟩ := Option.map_eq_some_iff.1 ((h.chosen?_eq hgraph slot).trans hsome)
  obtain ⟨rfl, rfl⟩ := Prod.mk.inj he
  dsimp only at *
  obtain ⟨hactive, -⟩ := Storybook.target?_eq_some (Storybook.chosen?_eq_some hchosen).2
  have hbegin := begin_choose_of_some (c := c) hchosen
  have hbegun : Alone c catalog docs { s with app := (App.begin c (.choose slot) s.app).state }
    (App.begin c (.choose slot) s.app).value := halone.begin trivial h.hears
  rw [hbegin] at hbegun
  obtain ⟨hadvance, hended⟩ := answer_saving hbegun (Nat.lt_of_lt_of_le (by decide) s.le_patience)
  obtain ⟨notices, hcall⟩ := call_of_advance (.choose slot) number (by rw [hbegin]; exact hadvance)
  obtain ⟨g, hg, hin⟩ := contains_of_option? hgraph hsome
  rw [Walker.choose_of_some hsome]
  refine ⟨_, notices, hcall, ⟨⟨_, hended⟩, h.hears, h.waiting, ?_, ?_, ?_⟩, m.screen, ?_⟩
  · exact Outside.store_savePlace h.store m.story target
  · refine (keeps_saved _ _ _).trans ?_
    have hplaces : s.app.storybook.places = w.nodes := congrArg Spot.places h.spot
    show ({ s.app.spot with places := s.app.storybook.places.put m.story target } : Spot) = _
    rw [h.spot, hplaces]
    rfl
  · exact h.sound.put hg hin _
  · have hpanel := Saving.panel?_resume (c := c.story) (s := s.app.stories) hactive target
      { s.app.storybook with places := s.app.storybook.places.put m.story target }
      (s.outside.answer (.savePlace m.story target)).1
    exact ⟨_, (congrArg Spot.active h.spot).symm.trans hactive, hpanel, rfl, rfl, rfl⟩

end Landed

/-- A boot brings the player to where a walker sets out. -/
theorem exists_boot {o : Outside} {marks : Table StoryId NodeId} (number : Nat) (link : Option String)
    (hgraph : lib.graph? = storyGraph? o.documents c.story catalog)
    (hstore : o.store = .memory marks (!lib.readable) false)
    (hscreens : Screen.Registry.ofReply c.content.registryPath (o.documents c.content.registryPath) =
      .ok lib.screens) :
    ∃ t notices, Session.call c number (.player (.boot link)) (fresh catalog o) =
        ⟨t, notices, .done (.player (.loaded (.ok ())))⟩ ∧
      Tracks o.documents c catalog lib (Walker.boot c.navigation lib link { marks }) t := by
  have hremembers : o.Remembers := .memory hstore
  have hspot : (opened c catalog o link).state.app.spot = _ := spot_opened link hscreens
  -- whether a screen is found or not, the player is where the walker went
  have harrived : ∀ w : Walker, w.marks = marks → w.nodes = [] →
      (opened c catalog o link).state.app.spot = w.spot lib.screens →
      ∃ t notices, Session.call c number (.player (.boot link)) (fresh catalog o) =
          ⟨t, notices, .done (.player (.loaded (.ok ())))⟩ ∧
        Tracks o.documents c catalog lib (w.attend c.navigation lib) t := by
    intro w hmarks hnodes hw
    have hsound : w.Sound lib := fun _ _ _ _ hnode => by rw [hnodes] at hnode; cases hnode
    have hdocument : (opened c catalog o link).state.outside.store = o.store :=
      Outside.store_answer (r := .document c.content.registryPath) nofun
    have harriving : Arriving c lib w (opened c catalog o link).state :=
      ⟨rfl, hdocument.trans (hmarks ▸ hstore), .inl hw⟩
    obtain ⟨t, notices, hadvance, ht⟩ := exists_arrival hgraph harriving hsound
      (alone_opening link hremembers).replied .loaded (due_opened link hscreens)
    obtain ⟨notices, hcall⟩ := call_of_opened link hremembers number ⟨notices, hadvance⟩
    exact ⟨t, notices, hcall, ht⟩
  rw [Spot.moved] at hspot
  unfold Walker.boot Walker.goTo
  dsimp only at hspot ⊢
  split
  · rename_i screen hscreen
    rw [hscreen] at hspot
    exact harrived (Walker.move c.navigation screen { marks }) rfl rfl hspot
  · rename_i cause hcause
    rw [hcause] at hspot
    exact harrived { marks } rfl rfl hspot

end Session
end Gamebook
