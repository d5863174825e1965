import Gamebook.Proofs.Session.Tracks

/-! Players and walkers. Asked for one thing after another, a player does what a walker does: it shows the
same screens and scenes, it gives the same answers, and its marks are in the store. Each call is followed
by one turn of the walker, and by induction so is each sequence of calls. -/
namespace Gamebook

open Story (Graph)

namespace Session

open Walker (Turn)

variable {docs : String → Except SourceFault Json.Value} {c : Settings} {catalog : Catalog}
variable {lib : Library} {w : Walker} {s : Session}

def played (c : Settings) (s : Session) (calls : List Gamebook.Call) : Session :=
  calls.foldl (fun s call => (Session.call c 0 (.player call) s).state) s

section Turns

variable (hgraph : lib.graph? = storyGraph? docs c.story catalog)

include hgraph

/-- Each call is one turn of the walker, with its answer. -/
theorem Tracks.take (h : Tracks docs c catalog lib w s) (number : Nat) (turn : Turn) :
    ∃ t notices, Session.call c number (.player turn.call) s =
        ⟨t, notices, .done (.player (w.answer c.navigation lib turn))⟩ ∧
      Tracks docs c catalog lib (w.take c.navigation lib turn) t := by
  cases turn with
  | go raw => exact h.go hgraph number raw
  | choose slot =>
    dsimp only [Walker.answer, Walker.take]
    cases hoption : w.option? c.navigation lib slot with
    | none =>
      obtain ⟨notices, hcall⟩ := h.choose_nothing hgraph number slot hoption
      rw [Walker.choose_of_none hoption]
      exact ⟨s, notices, hcall, h⟩
    | some e =>
      obtain ⟨story, target⟩ := e
      obtain ⟨t, notices, hcall, ht, -⟩ := h.choose_some hgraph number slot hoption
      rw [Walker.choose_of_some hoption] at ht ⊢
      exact ⟨t, notices, hcall, ht⟩

theorem Tracks.played (h : Tracks docs c catalog lib w s) (turns : List Turn) :
    Tracks docs c catalog lib (w.walk c.navigation lib turns) (played c s (turns.map Turn.call)) := by
  induction turns generalizing w s with
  | nil => exact h
  | cons turn turns ih =>
    obtain ⟨t, notices, hcall, ht⟩ := h.take hgraph 0 turn
    have hstate : (Session.call c 0 (.player turn.call) s).state = t := by rw [hcall]
    have hplayed := ih ht
    rw [← hstate] at hplayed
    exact hplayed

end Turns

theorem tracks_played {o : Outside} {marks : Table StoryId NodeId}
    (hgraph : lib.graph? = storyGraph? o.documents c.story catalog)
    (hstore : o.store = .memory marks (!lib.readable) false)
    (hscreens : Screen.Registry.ofReply c.content.registryPath (o.documents c.content.registryPath) =
      .ok lib.screens) (link : Option String) (turns : List Turn) :
    Tracks o.documents c catalog lib
      ((Walker.boot c.navigation lib link { marks }).walk c.navigation lib turns)
      (played c (fresh catalog o) (.boot link :: turns.map Turn.call)) := by
  obtain ⟨t, notices, hcall, ht⟩ := exists_boot 0 link hgraph hstore hscreens
  have hstate : (Session.call c 0 (.player (.boot link)) (fresh catalog o)).state = t := by rw [hcall]
  have hplayed := ht.played hgraph turns
  rw [← hstate] at hplayed
  exact hplayed

/-- However another player with the same outside comes to the screen of a story, it shows this node of it. -/
def Resumes (c : Settings) (catalog : Catalog) (o : Outside) (story : StoryId) (node : NodeId) : Prop :=
  ∀ (link : Option String) (raws : List String) (screen : ScreenId),
    let u := played c (fresh catalog o) (.boot link :: raws.map .go)
    u.app.stage.active = some screen → c.navigation.storyOf? screen = some story →
      u.app.storybook.places.get? story = some node ∧
        ∃ p, u.app.stage.panel? screen = some p ∧ p.story = story ∧ p.node = node

section Again

variable (hgraph : lib.graph? = storyGraph? docs c.story catalog)
variable (hscreens : Screen.Registry.ofReply c.content.registryPath (docs c.content.registryPath) = .ok lib.screens)

include hgraph hscreens

/-- Another player with the same outside is where another walker with the same marks is. -/
theorem Tracks.again (h : Tracks docs c catalog lib w s) (link : Option String) (raws : List String) :
    Tracks docs c catalog lib
      ((Walker.boot c.navigation lib link { marks := w.marks }).walk c.navigation lib (raws.map .go))
      (Session.played c (fresh catalog s.outside) (.boot link :: raws.map .go)) := by
  obtain ⟨answer, halone⟩ := h.alone
  rw [← halone.documents] at hgraph hscreens ⊢
  have htracks := tracks_played hgraph h.store hscreens link (raws.map Turn.go)
  rw [List.map_map] at htracks
  exact htracks

theorem Tracks.resumes (h : Tracks docs c catalog lib w s) (hreadable : lib.readable = true) {story : StoryId}
    {node : NodeId} {g : Graph} (hg : lib.graph? story = some g) (hin : g.contains node = true)
    (hmark : w.marks.get? story = some node) : Resumes c catalog s.outside story node := by
  intro link raws screen u hactive hstoryOf
  have hfollows := (h.again hgraph hscreens link raws).follows hgraph
  have hfirst : Walker.Marked story node { marks := w.marks } := ⟨hmark, .inl rfl⟩
  have hbooted : (Walker.boot c.navigation lib link { marks := w.marks }).Marked story node :=
    hfirst.goTo hreadable hg hin _
  have hmarked := hbooted.walk (c := c.navigation) hreadable hg hin raws
  have hstory := Walker.story?_of_screen (hfollows.screen.symm.trans hactive) hstoryOf hg
  obtain ⟨screen', p, hshowing⟩ := hfollows.shown story g hstory
  obtain rfl := Option.some.inj (hactive.symm.trans (hfollows.screen.trans hshowing.active))
  obtain rfl : p.node = node := by
    rcases hmarked.node with hnone | hsome
    · cases hnone.symm.trans hshowing.place
    · exact Option.some.inj (hshowing.place.symm.trans hsome)
  exact ⟨hshowing.tells.place, p, hshowing.panel, hshowing.tells.story, rfl⟩

end Again

structure Went (c : Settings) (lib : Library) (w w' : Walker) (s t : Session) : Prop where
  kept : ∀ story node, s.app.storybook.places.get? story = some node →
    t.app.storybook.places.get? story = some node
  opened : ∀ story g, s.app.storybook.places.get? story = none → w'.story? c.navigation lib = some (story, g) →
    t.app.storybook.places.get? story = g.opening? (w.mark? lib story)

structure Chosen (c : Settings) (catalog : Catalog) (lib : Library) (w : Walker) (t : Session) (story : StoryId)
    (node : NodeId) : Prop where
  place : t.app.storybook.places.get? story = some node
  panel : ∃ screen p, w.screen = some screen ∧ t.app.stage.panel? screen = some p ∧ p.story = story ∧
    p.node = node ∧ p.scrollTop = 0
  mark : ∃ marks, t.outside.store = .memory marks (!lib.readable) false ∧ marks.get? story = some node
  resumes : lib.readable = true → Resumes c catalog t.outside story node

/-- A session is where a walker is, and every further call is one more turn of it. -/
structure Refines (c : Settings) (catalog : Catalog) (lib : Library) (w : Walker) (s : Session) : Prop where
  follows : Follows c lib w s
  goes : ∀ number raw, ∃ t notices, Session.call c number (.player (.go raw)) s =
      ⟨t, notices, .done (.player (.screen (w.go c.navigation lib raw).1))⟩ ∧
    Follows c lib (w.go c.navigation lib raw).2 t ∧ Went c lib w (w.go c.navigation lib raw).2 s t
  chooses : ∀ number slot story node, w.option? c.navigation lib slot = some (story, node) →
    ∃ t notices, Session.call c number (.player (.choose slot)) s =
        ⟨t, notices, .done (.player (.node (some node)))⟩ ∧
      Follows c lib (w.choose c.navigation lib slot).2 t ∧ Chosen c catalog lib w t story node
  stays : ∀ number slot, w.option? c.navigation lib slot = none →
    ∃ notices, Session.call c number (.player (.choose slot)) s = ⟨s, notices, .done (.player (.node none))⟩

theorem Tracks.refines (h : Tracks docs c catalog lib w s)
    (hgraph : lib.graph? = storyGraph? docs c.story catalog)
    (hscreens : Screen.Registry.ofReply c.content.registryPath (docs c.content.registryPath) = .ok lib.screens) :
    Refines c catalog lib w s := by
  have hfollows := h.follows hgraph
  refine ⟨hfollows, fun number raw => ?_, fun number slot story node hsome => ?_, fun number slot hnone => ?_⟩
  · obtain ⟨t, notices, hcall, ht⟩ := h.go hgraph number raw
    have hgone := ht.follows hgraph
    refine ⟨t, notices, hcall, hgone, fun story node hnode => ?_, fun story g hnode hstory => ?_⟩
    · rw [hfollows.places] at hnode
      rw [hgone.places]
      exact Walker.get?_nodes_go hnode raw
    · rw [hfollows.places] at hnode
      rw [hgone.places]
      refine Walker.get?_nodes_goTo_of_none hnode (fun hshown => ?_) hstory
      -- a story on the screen was begun
      obtain ⟨screen, p, hshowing⟩ := hfollows.shown story g hshown
      cases hnode.symm.trans hshowing.place
  · obtain ⟨t, notices, hcall, ht, hpanel⟩ := h.choose_some hgraph number slot hsome
    have hgone := ht.follows hgraph
    refine ⟨t, notices, hcall, hgone, ?_⟩
    rw [Walker.choose_of_some hsome] at ht hgone
    obtain ⟨g, hg, hin⟩ := contains_of_option? hgraph hsome
    have hmark : (w.marks.put story node).get? story = some node := Table.get?_put_self ..
    refine ⟨?_, hpanel, ⟨_, hgone.marks, hmark⟩, fun hreadable => ?_⟩
    · rw [hgone.places]
      exact Table.get?_put_self ..
    · exact ht.resumes hgraph hscreens hreadable hg hin hmark
  · exact h.choose_nothing hgraph number slot hnone

def library (docs : String → Except SourceFault Json.Value) (c : Settings) (catalog : Catalog)
    (screens : Screen.Registry) (readable : Bool) : Library where
  screens
  graph? := storyGraph? docs c.story catalog
  readable

/-- A player does what a walker does. -/
theorem player_follows_walker {c : Settings} {o : Outside} {marks : Table StoryId NodeId} {readable : Bool}
    {screens : Screen.Registry} (hstore : o.store = .memory marks (!readable) false)
    (hscreens : Screen.Registry.ofReply c.content.registryPath (o.documents c.content.registryPath) = .ok screens)
    (catalog : Catalog) (link : Option String) (turns : List Turn) :
    let lib := library o.documents c catalog screens readable
    let first := Walker.boot c.navigation lib link { marks }
    let s := played c (fresh catalog o) (.boot link :: turns.map Turn.call)
    let retraced := played c (fresh catalog s.outside) (.boot link :: (turns.filterMap Turn.raw?).map .go)
    (∀ number, ∃ t notices, Session.call c number (.player (.boot link)) (fresh catalog o) =
        ⟨t, notices, .done (.player (.loaded (.ok ())))⟩ ∧ Follows c lib first t ∧
      Went c lib { marks } first (fresh catalog o) t) ∧
    Refines c catalog lib (first.walk c.navigation lib turns) s ∧
    retraced.app.stage.active = s.app.stage.active := by
  intro lib first s retraced
  have htracks : Tracks o.documents c catalog lib (first.walk c.navigation lib turns) s :=
    tracks_played rfl hstore hscreens link turns
  refine ⟨fun number => ?_, htracks.refines rfl hscreens, ?_⟩
  · obtain ⟨t, notices, hcall, ht⟩ : ∃ t notices, Session.call c number (.player (.boot link)) (fresh catalog o) =
        ⟨t, notices, .done (.player (.loaded (.ok ())))⟩ ∧ Tracks o.documents c catalog lib first t :=
      exists_boot number link rfl hstore hscreens
    have hgone := ht.follows rfl
    refine ⟨t, notices, hcall, hgone, fun story node hnode => (by cases hnode), fun story g _ hstory => ?_⟩
    rw [hgone.places]
    exact Walker.get?_nodes_goTo_of_none rfl nofun hstory
  · have hretraced := (htracks.again rfl hscreens link (turns.filterMap Turn.raw?)).follows rfl
    have hbeside : Walker.Beside { marks } { marks := (first.walk c.navigation lib turns).marks } := ⟨rfl, rfl⟩
    have hbooted : first.Beside (Walker.boot c.navigation lib link
      { marks := (first.walk c.navigation lib turns).marks }) := hbeside.boot link
    exact hretraced.screen.trans ((hbooted.walk turns).screen.symm.trans (htracks.follows rfl).screen.symm)

/-- Two rooms that lead to each other, and a yard outside; a reader was in the second one. -/
def rooms : Outside where
  source := .memory [
    ("sec/screen_registry.json",
      "\x7b\"start_screen\":\"yard\",\"screens\":\x7b\"yard\":\x7b\x7d,\"story_a\":\x7b\x7d\x7d\x7d"),
    ("a.json", "\x7b\"scenes\":\x7b\"S1\":\x7b\"options\":[\x7b\"to\":\"S2\"\x7d]\x7d," ++
      "\"S2\":\x7b\"options\":[\x7b\"to\":\"S1\"\x7d]\x7d\x7d\x7d")] []
  store := .memory [(⟨"a"⟩, ⟨"S2"⟩)] false false

def roomCatalog : Catalog := .ofList [(⟨"a"⟩, "a.json")]

def roomLibrary : Library :=
  library rooms.documents {} roomCatalog ⟨⟨"yard"⟩, [(⟨"yard"⟩, {}), (⟨"story_a"⟩, {})]⟩ true

/-- In from the yard, to the other room, out and in again. -/
def roomTurns : List Turn := [.go "story_a", .choose 0, .go "yard", .go "story_a"]

def roomReader : Walker :=
  (Walker.boot {} roomLibrary none { marks := [(⟨"a"⟩, ⟨"S2"⟩)] }).walk {} roomLibrary roomTurns

theorem player_follows_walker_between_rooms :
    Refines {} roomCatalog roomLibrary roomReader
      (played {} (fresh roomCatalog rooms) (.boot none :: roomTurns.map Turn.call)) ∧
    roomReader.screen = some ⟨"story_a"⟩ ∧ roomReader.nodes = [(⟨"a"⟩, ⟨"S1"⟩)] ∧
    roomReader.marks = [(⟨"a"⟩, ⟨"S1"⟩)] ∧
    roomReader.option? {} roomLibrary 0 = some (⟨"a"⟩, ⟨"S2"⟩) ∧
    roomReader.option? {} roomLibrary 1 = none := by
  have hstore : rooms.store = .memory [(⟨"a"⟩, ⟨"S2"⟩)] (!true) false := rfl
  have hscreens : Screen.Registry.ofReply "sec/screen_registry.json"
      (rooms.documents "sec/screen_registry.json") = .ok roomLibrary.screens := by decide +kernel
  obtain ⟨-, hrefines, -⟩ := player_follows_walker (c := {}) hstore hscreens roomCatalog none roomTurns
  exact ⟨hrefines, by decide +kernel⟩

end Session
end Gamebook
