import Gamebook.Player.View
import Gamebook.Proofs.App.Delivery
import Gamebook.Proofs.App.Furnished
import Gamebook.Proofs.Player.Regions

/-! What the terminal shows again. A view remembers the screen and the scene on it. Once all calls have returned,
these say all that is told of the screen but for its regions and for the graph of its story, and as long as the
documents do not change these stay what they are too. A screen that was redone in its place after a document was
changed is not shown again. -/
namespace Gamebook

namespace Player

theorem describe_congr {s t : Stage} (hs : s.Sound) (ht : t.Sound) (hactive : t.active = s.active)
    (hregions : t.activeSurface?.map (·.regions) = s.activeSurface?.map (·.regions))
    (hpanel : (t.active.bind t.panel?).map describePanel = (s.active.bind s.panel?).map describePanel) :
    describe t = describe s := by
  cases h : s.active with
  | none => simp only [describe, Stage.activeSurface?, hactive, h, Option.bind_none]
  | some screen =>
    rw [h] at hactive
    simp only [Stage.activeSurface?, Stage.panel?, hactive, h, Option.bind_some] at hregions hpanel
    simp only [describe, Stage.activeSurface?, hactive, h, Option.bind_some]
    cases hf : s.surface? screen with
    | none =>
      rw [hf, Option.map_none, Option.map_eq_none_iff] at hregions
      rw [hregions]
    | some f =>
      rw [hf] at hregions hpanel
      obtain ⟨g, hg, hregions⟩ := Option.map_eq_some_iff.1 hregions
      rw [hg, Option.bind_some, Option.bind_some] at hpanel
      have hid : g.id = f.id := (ht.ids hg).trans (hs.ids hf).symm
      simp only [hg, describeSurface_eq, hid, hregions, hpanel]

/-- How far a panel is scrolled is not told, nor is anything of a story but the scene. -/
theorem describePanel_panel (c : StorySettings) (m m' : Mounted) {node : NodeId} (hstory : m'.story = m.story)
    (hscene : m'.graph.scene? node = m.graph.scene? node) (top top' : Nat) :
    describePanel (Storybook.panel c m' node top') = describePanel (Storybook.panel c m node top) := by
  simp only [describePanel, Storybook.panel, hstory, hscene]

end Player

namespace App

variable {answers : (r : Request) → r.Reply → Prop} {c : Settings} {catalog : Catalog}
variable {log : List (App × App)} {f : (protocol c).Flight}

theorem panel_of_quiet (hrun : (protocol c).Run Call.Plays answers ⟨ofCatalog catalog, []⟩ log f)
    (hquiet : f.Quiet) {screen : ScreenId} {p : Stage.Panel} (hactive : f.state.stage.active = some screen)
    (hp : f.state.stage.panel? screen = some p) :
    ∃ story graph, c.navigation.storyOf? screen = some story ∧ Ends answers c.story catalog story (some graph) ∧
      f.state.storybook.mounted = some ⟨story, screen, graph⟩ ∧
      p = Storybook.panel c.story ⟨story, screen, graph⟩ p.node p.scrollTop := by
  have hkept := kept_of_quiet hrun hquiet
  obtain ⟨m, hm, -, -, -, hpanel⟩ := hkept.tells.shown.panel hp
  have hmounted : f.state.storybook.mounted = some m := hm
  have hcurrent : f.state.stage.current? = some ⟨screen, f.state.stage.generation⟩ := by
    rw [Stage.current?, hactive]
    rfl
  rcases told_or_untold hkept hcurrent with htold | hlost
  · rcases hkept.tells.settled _ hcurrent htold with ⟨w, hw, -⟩ | hsettled
    · exact absurd hw (Multiset.notMem_zero w)
    · have hsettled := hsettled screen hactive
      cases hstory : c.navigation.storyOf? screen with
      | none =>
        rw [hstory] at hsettled
        exact absurd (hm.symm.trans hsettled) (Option.some_ne_none m)
      | some story =>
        rw [hstory] at hsettled
        obtain ⟨graph, hends, hsome⟩ := hsettled
        obtain ⟨g, rfl, rfl⟩ := Option.map_eq_some_iff.1 (hsome.symm.trans hm)
        exact ⟨story, g, rfl, hends, hmounted, hpanel⟩
  · -- a player that lost the navigation to this screen has no panel at all
    exact absurd (hm.symm.trans (hkept.tells.lost _ hcurrent hlost)) (Option.some_ne_none m)

end App

namespace Player

open App

/-- The screen that is shown was redone in its place: it has other regions, or its story was read anew and says
something else in the scene that is shown. -/
inductive Redone (a b : App) : Prop
  | regions : b.stage.active = a.stage.active →
      b.stage.activeSurface?.map (·.regions) ≠ a.stage.activeSurface?.map (·.regions) → Redone a b
  | scene {story : StoryId} {screen : ScreenId} {graph graph' : Story.Graph} {p : Stage.Panel} :
      a.stage.active = some screen → a.stage.panel? screen = some p →
      a.storybook.mounted = some ⟨story, screen, graph⟩ → b.storybook.mounted = some ⟨story, screen, graph'⟩ →
      graph'.scene? p.node ≠ graph.scene? p.node → Redone a b

variable {answers : (r : Request) → r.Reply → Prop} {docs : String → Except SourceFault Json.Value}
variable {c : Settings} {catalog : Catalog} {log₁ log₂ : List (App × App)} {f₁ f₂ : (protocol c).Flight}

/-- Once all calls have returned, two screens that a view does not tell apart read the same unless one is the other
redone. -/
theorem describe_eq_of_view
    (hrun₁ : (protocol c).Run Call.Plays answers ⟨ofCatalog catalog, []⟩ log₁ f₁) (hquiet₁ : f₁.Quiet)
    (hrun₂ : (protocol c).Run Call.Plays answers ⟨ofCatalog catalog, []⟩ log₂ f₂) (hquiet₂ : f₂.Quiet)
    (hview : View.ofStage f₂.state.stage = View.ofStage f₁.state.stage) (hsame : ¬ Redone f₁.state f₂.state) :
    describe f₂.state.stage = describe f₁.state.stage := by
  obtain ⟨hactive, hnode⟩ := View.mk.inj hview
  have hregions : f₂.state.stage.activeSurface?.map (·.regions) = f₁.state.stage.activeSurface?.map (·.regions) := by
    by_contra h
    exact hsame (.regions hactive h)
  refine describe_congr (kept_of_quiet hrun₁ hquiet₁).tells.shown.sound
    (kept_of_quiet hrun₂ hquiet₂).tells.shown.sound hactive hregions ?_
  cases hp : f₁.state.stage.active.bind f₁.state.stage.panel? with
  | none =>
    rw [hp, Option.map_none, Option.map_eq_none_iff] at hnode
    rw [hnode]
  | some p₁ =>
    rw [hp] at hnode
    obtain ⟨p₂, hp₂, hnode⟩ := Option.map_eq_some_iff.1 hnode
    obtain ⟨screen, hscreen, hp₁⟩ := Option.bind_eq_some_iff.1 hp
    rw [hscreen] at hactive
    rw [hp₂]
    rw [hactive, Option.bind_some] at hp₂
    obtain ⟨story, g₁, hstory, -, hm₁, heq₁⟩ := panel_of_quiet hrun₁ hquiet₁ hscreen hp₁
    obtain ⟨story', g₂, hstory', -, hm₂, heq₂⟩ := panel_of_quiet hrun₂ hquiet₂ hactive hp₂
    obtain rfl := Option.some.inj (hstory.symm.trans hstory')
    have hscene : g₂.scene? p₁.node = g₁.scene? p₁.node := by
      by_contra h
      exact hsame (.scene hscreen hp₁ hm₁ hm₂ h)
    have htold := describePanel_panel c.story ⟨story, screen, g₁⟩ ⟨story, screen, g₂⟩ rfl hscene
    rw [Option.map_some, Option.map_some, heq₁, heq₂, hnode, htold p₁.scrollTop p₂.scrollTop]

/-- As long as the documents do not change, no screen is redone. -/
theorem not_redone_of_fixed
    (hrun₁ : (protocol c).Run Call.Plays (Fixed docs) ⟨ofCatalog catalog, []⟩ log₁ f₁) (hquiet₁ : f₁.Quiet)
    (hrun₂ : (protocol c).Run Call.Plays (Fixed docs) ⟨ofCatalog catalog, []⟩ log₂ f₂) (hquiet₂ : f₂.Quiet)
    (hview : View.ofStage f₂.state.stage = View.ofStage f₁.state.stage) : ¬ Redone f₁.state f₂.state := by
  obtain ⟨hactive, hnode⟩ := View.mk.inj hview
  have hregions {log : List (App × App)} {f : (protocol c).Flight}
      (hrun : (protocol c).Run Call.Plays (Fixed docs) ⟨ofCatalog catalog, []⟩ log f) (hquiet : f.Quiet) :
      f.state.stage.activeSurface?.map (·.regions) =
        f.state.stage.active.map ((informed c docs).regionsOf docs) := by
    cases h : f.state.stage.active with
    | none => simp only [Stage.activeSurface?, h, Option.bind_none, Option.map_none]
    | some screen =>
      obtain ⟨hlit, hregions⟩ := regions_of_quiet hrun hquiet h
      obtain ⟨surface, hsurface, -⟩ := Stage.lit_iff.1 hlit
      simp only [Stage.activeSurface?, h, Option.bind_some, hsurface, Option.map_some, ← hregions, Stage.regions]
  rintro (⟨-, hother⟩ | ⟨hscreen, hp₁, hm₁, hm₂, hother⟩)
  · exact hother (by rw [hregions hrun₁ hquiet₁, hregions hrun₂ hquiet₂, hactive])
  · rw [hscreen] at hactive
    simp only [hactive, hscreen, Option.bind_some, hp₁] at hnode
    obtain ⟨p₂, hp₂, -⟩ := Option.map_eq_some_iff.1 hnode
    obtain ⟨story₁, g₁, hstory₁, hends₁, heq₁, -⟩ := panel_of_quiet hrun₁ hquiet₁ hscreen hp₁
    obtain ⟨story₂, g₂, hstory₂, hends₂, heq₂, -⟩ := panel_of_quiet hrun₂ hquiet₂ hactive hp₂
    -- each graph is the one that the documents have for the story of the screen
    obtain rfl := Option.some.inj (hstory₂.symm.trans hstory₁)
    obtain rfl := Option.some.inj (hends₂.eq_storyGraph?.trans hends₁.eq_storyGraph?.symm)
    obtain rfl := (Mounted.mk.inj (Option.some.inj (hm₁.symm.trans heq₁))).2.2
    obtain rfl := (Mounted.mk.inj (Option.some.inj (hm₂.symm.trans heq₂))).2.2
    exact hother rfl

theorem View.isEmpty_delta_iff (old new : View) : (old.delta new).isEmpty = true ↔ new = old := by
  obtain ⟨screen, node⟩ := old
  obtain ⟨screen', node'⟩ := new
  simp [View.delta, Delta.isEmpty]

/-- A screen that reads otherwise than it did when it was looked at last is shown again, unless it was redone in its
place; as long as the documents do not change, none is. -/
theorem change_is_shown_again
    (hfirst : (protocol c).Run Call.Plays answers ⟨ofCatalog catalog, []⟩ log₁ f₁) (hquiet₁ : f₁.Quiet)
    (hsecond : (protocol c).Run Call.Plays answers f₁ log₂ f₂) (hquiet₂ : f₂.Quiet)
    (hchanged : describe f₂.state.stage ≠ describe f₁.state.stage)
    (hsame : ¬ Redone f₁.state f₂.state ∨ ∃ docs, answers = Fixed docs) (view : View) (forced : Bool) :
    let seen := (screenText f₁.state.stage view forced).2
    (seen.delta (View.ofStage f₂.state.stage)).isEmpty = false ∧
      (screenText f₂.state.stage seen false).1 =
        (if f₂.state.stage.active = f₁.state.stage.active then "" else clearScreen) ++ describe f₂.state.stage := by
  intro seen
  have hdelta : (seen.delta (View.ofStage f₂.state.stage)).isEmpty = false := by
    rw [Bool.eq_false_iff, Ne, View.isEmpty_delta_iff]
    intro hview
    refine hchanged (describe_eq_of_view hfirst hquiet₁ (hfirst.trans hsecond) hquiet₂ hview ?_)
    rcases hsame with hsame | ⟨docs, rfl⟩
    · exact hsame
    · exact not_redone_of_fixed hfirst hquiet₁ (hfirst.trans hsecond) hquiet₂ hview
  refine ⟨hdelta, ?_⟩
  have hclear : (if (seen.delta (View.ofStage f₂.state.stage)).screenChanged = true then clearScreen else "") =
      if f₂.state.stage.active = f₁.state.stage.active then "" else clearScreen := by
    show (if decide (f₂.state.stage.active ≠ f₁.state.stage.active) = true then _ else _) = _
    simp
  simp only [screenText, hdelta, hclear]
  rfl

/-- The hall after the stair and the bell were taken away. -/
def emptiedDocs (path : String) : Except SourceFault Json.Value :=
  if path = "h.json" then .ok (.object [("hitboxes", .array [hitbox "out" 10 10 20 20 "go" "yard"])])
  else hallDocs path

def goingOn (moves : List (Protocol.Move Call)) : (protocol {}).Flight :=
  Protocol.Flight.play (P := protocol {}) (sourceOf emptiedDocs) atTheStair moves

/-- The hall is changed, and then the reader goes to the story. -/
theorem change_is_shown_again_at_the_tale :
    let tale := goingOn [.begin (.go "story_a"), .resume 1, .resume 1, .resume 1]
    (∃ log, (protocol {}).Run Call.Plays (fun _ _ => True) ⟨ofCatalog taleCatalog, []⟩ log atTheStair) ∧
    atTheStair.Quiet ∧ (∃ log, (protocol {}).Run Call.Plays (fun _ _ => True) atTheStair log tale) ∧
    tale.Quiet ∧ describe tale.state.stage ≠ describe atTheStair.state.stage ∧
    ¬ Redone atTheStair.state tale.state ∧
    ((View.ofStage atTheStair.state.stage).delta (View.ofStage tale.state.stage)).isEmpty = false := by
  intro tale
  have hsecond : ∃ log, (protocol {}).Run Call.Plays (fun _ _ => True) atTheStair log tale :=
    Protocol.exists_run_play (fun _ => trivial) (by simp [Call.Plays]) .start
  have hquiet : tale.Quiet := by unfold Protocol.Flight.Quiet; decide +kernel
  have hchanged : describe tale.state.stage ≠ describe atTheStair.state.stage := by decide +kernel
  have hmoved : tale.state.stage.active ≠ atTheStair.state.stage.active := by decide +kernel
  have hbare : atTheStair.state.stage.active.bind atTheStair.state.stage.panel? = none := by decide +kernel
  have hsame : ¬ Redone atTheStair.state tale.state := by
    rintro (⟨hactive, -⟩ | ⟨hscreen, hp, -⟩)
    · exact hmoved hactive
    · rw [hscreen, Option.bind_some, hp] at hbare
      cases hbare
  refine ⟨run_atTheStair, quiet_atTheStair, hsecond, hquiet, hchanged, hsame, ?_⟩
  obtain ⟨log₁, hfirst⟩ := run_atTheStair
  obtain ⟨log₂, hsecond⟩ := hsecond
  exact (change_is_shown_again hfirst quiet_atTheStair hsecond hquiet hchanged (.inl hsame) {} true).1

/-- The hall is changed, and then the reader goes there again: the hall has another region now, and the terminal
goes on to show the old ones. -/
theorem change_of_regions_is_not_shown :
    let hall := goingOn [.begin (.go "hall"), .resume 1]
    (∃ log, (protocol {}).Run Call.Plays (fun _ _ => True) ⟨ofCatalog taleCatalog, []⟩ log atTheStair) ∧
    atTheStair.Quiet ∧ atTheStair.state.booted = true ∧
    (∃ log, (protocol {}).Run Call.Plays (fun _ _ => True) atTheStair log hall) ∧
    hall.Quiet ∧ hall.state.booted = true ∧ describe hall.state.stage ≠ describe atTheStair.state.stage ∧
    ((View.ofStage atTheStair.state.stage).delta (View.ofStage hall.state.stage)).isEmpty = true ∧
    (screenText hall.state.stage (View.ofStage atTheStair.state.stage) false).1 = "" := by
  intro hall
  refine ⟨run_atTheStair, quiet_atTheStair, by decide +kernel, ?_, ?_, by decide +kernel, by decide +kernel,
    by decide +kernel, by decide +kernel⟩
  · exact Protocol.exists_run_play (fun _ => trivial) (by simp [Call.Plays]) .start
  · unfold Protocol.Flight.Quiet
    decide +kernel

end Player
end Gamebook
