import Gamebook.Proofs.App.Bearings
import Gamebook.Proofs.App.Panel
import Gamebook.Proofs.App.Undisturbed
import Gamebook.Proofs.Navigation.Travel

/-! The screens that a player remembers, against those it has visited. A visit is a screen shown in a generation of
its own; `Logged` says that the memory can be read off the visits of a trace at any time, however its calls overlap.
So an alias stands for the newest visit of its kind, and it can be gone to as long as that screen is registered. -/
namespace Gamebook

theorem afterStem?_eq_some_iff {stem s rest : String} : afterStem? stem s = some rest ↔ s = stem ++ rest := by
  simp only [afterStem?, Option.map_eq_some_iff, List.isPrefixOf?_eq_some_iff_append_eq, ← String.toList_inj,
    String.toList_append, String.toList_ofList]
  exact ⟨fun ⟨cs, htext, hrest⟩ => hrest ▸ htext.symm, fun htext => ⟨rest.toList, htext.symm, rfl⟩⟩

namespace Screen

/-- What an alias stands for: the library screen or the story screen that was shown last. -/
inductive Alias
  | library
  | story

namespace Alias

def route : Alias → Route
  | library => .lastLibrary
  | story => .lastStory

def stem (c : NavigationSettings) : Alias → String
  | library => c.libraryStem
  | story => c.storyStem

/-- The screens that an alias can stand for are told by how their names begin. -/
def Covers (c : NavigationSettings) (w : Alias) (screen : ScreenId) : Prop := ∃ rest, screen.text = w.stem c ++ rest

theorem covers_iff {c : NavigationSettings} {w : Alias} {screen : ScreenId} :
    w.Covers c screen ↔ (afterStem? (w.stem c) screen.text).isSome = true := by
  simp only [Covers, Option.isSome_iff_exists, afterStem?_eq_some_iff]

instance (c : NavigationSettings) (w : Alias) (screen : ScreenId) : Decidable (w.Covers c screen) :=
  decidable_of_iff _ covers_iff.symm

def recalled : Alias → Memory → Option ScreenId
  | library => (·.lastLibrary)
  | story => (·.lastStory)

@[simp] theorem lookUp?_route (w : Alias) (m : Memory) : m.lookUp? w.route = w.recalled m := by
  cases w <;> rfl

theorem recalled_note (w : Alias) (c : NavigationSettings) (m : Memory) (screen : ScreenId) :
    w.recalled (m.note c screen) = if w.Covers c screen then some screen else w.recalled m := by
  simp only [covers_iff]
  cases w <;> rfl

end Alias
end Screen

namespace App

open Screen (Route Registry Alias)
open Navigation (travel)

variable {c : Settings} {catalog : Catalog} {allowed : Call → Prop} {answers : (r : Request) → r.Reply → Prop}
variable {es : List (protocol c).Event} {e : (protocol c).Event} {f : (protocol c).Flight}

/-- The navigation that is accepted in an event: the one that opens a generation. -/
def visit? (e : (protocol c).Event) : Option ScreenChange :=
  if e.before.state.stage.generation < e.after.state.stage.generation then
    e.after.state.stage.active.map (⟨·, e.after.state.stage.generation⟩)
  else none

def visits (es : List (protocol c).Event) : List ScreenChange := es.filterMap visit?

inductive Sees (e : (protocol c).Event) : Prop
  | stays : visit? e = none → e.after.state.stage.generation = e.before.state.stage.generation →
      e.after.state.navigation.memory = e.before.state.navigation.memory → Sees e
  | visits {screen : ScreenId} {registry : Registry} :
      visit? e = some ⟨screen, e.before.state.stage.generation + 1⟩ →
      e.after.state.navigation.registry = some registry → registry.contains screen = true →
      e.after.state.stage.generation = e.before.state.stage.generation + 1 →
      e.after.state.navigation.memory = e.before.state.navigation.memory.note c.navigation screen → Sees e

theorem sees_of_gone {b : Bearings} {route : Route}
    (hgeneration : b.generation = e.before.state.stage.generation)
    (hmemory : b.memory = e.before.state.navigation.memory)
    (h : e.after.state.bearings = b.gone c.navigation route) : Sees e := by
  cases hleads : b.leads? route with
  | none =>
    rw [Bearings.gone_of_none hleads] at h
    have hsame : e.after.state.stage.generation = e.before.state.stage.generation :=
      (congrArg Bearings.generation h).trans hgeneration
    refine .stays ?_ hsame ((congrArg Bearings.memory h).trans hmemory)
    rw [visit?, if_neg (by omega)]
  | some screen =>
    rw [Bearings.gone_of_some hleads] at h
    obtain ⟨registry, hregistry, -, hin⟩ := Bearings.leads?_eq_some.1 hleads
    have hraised : e.after.state.stage.generation = e.before.state.stage.generation + 1 := by
      rw [← hgeneration]
      exact congrArg Bearings.generation h
    have hactive : e.after.state.stage.active = some screen := congrArg Bearings.active h
    refine .visits ?_ ((congrArg Bearings.registry h).trans hregistry) hin hraised ?_
    · rw [visit?, if_pos (by omega), hactive, hraised]
      rfl
    · rw [← hmemory]
      exact congrArg Bearings.memory h

theorem sees_of_happens (he : e.Happens allowed answers) : Sees e := by
  cases steers_of_happens he with
  | keeps _ hkeeps =>
    have hsame : e.after.state.stage.generation = e.before.state.stage.generation :=
      congrArg Bearings.generation hkeeps
    refine .stays ?_ hsame (congrArg Bearings.memory hkeeps)
    rw [visit?, if_neg (by omega)]
  | goes _ _ _ hgone => exact sees_of_gone rfl rfl hgone
  | opens _ hopened => exact sees_of_gone rfl rfl hopened

/-- Only a registry that comes changes the one that there is. -/
theorem registry_of_happens (he : e.Happens allowed answers) (hcame : came? e = none) :
    e.after.state.navigation.registry = e.before.state.navigation.registry := by
  cases steers_of_happens he with
  | keeps _ hkeeps => exact congrArg Bearings.registry hkeeps
  | goes _ _ _ hgone =>
    refine (congrArg Bearings.registry hgone).trans ?_
    unfold Bearings.gone
    split <;> rfl
  | opens hsome _ =>
    rw [hcame] at hsome
    cases hsome

/-- The visits of a trace, newest first: one for each generation, and the memory is what they leave. -/
structure Logged (es : List (protocol c).Event) (f : (protocol c).Flight) : Prop where
  descending : (visits es).Pairwise fun ch ch' => ch'.generation < ch.generation
  bounded : ∀ ch ∈ visits es, ch.generation ≤ f.state.stage.generation
  counted : (visits es).length = f.state.stage.generation
  recalled : ∀ w : Alias, w.recalled f.state.navigation.memory =
    ((visits es).find? fun ch => w.Covers c.navigation ch.screen).map (·.screen)

theorem logged_of_trace (h : (protocol c).Trace allowed answers ⟨ofCatalog catalog, []⟩ es f) : Logged es f := by
  induction h with
  | start => exact ⟨.nil, fun _ h => absurd h List.not_mem_nil, rfl, fun w => by cases w <;> rfl⟩
  | @step es e _ he ih =>
    cases sees_of_happens he with
    | stays hnone hgeneration hmemory =>
      have hvisits : visits (e :: es) = visits es := List.filterMap_cons_none hnone
      refine ⟨?_, ?_, ?_, fun w => ?_⟩
      · rw [hvisits]
        exact ih.descending
      · rw [hvisits, hgeneration]
        exact ih.bounded
      · rw [hvisits, hgeneration]
        exact ih.counted
      · rw [hvisits, hmemory]
        exact ih.recalled w
    | @visits screen registry hvisit _ _ hgeneration hmemory =>
      have hvisits : visits (e :: es) = ⟨screen, e.before.state.stage.generation + 1⟩ :: visits es :=
        List.filterMap_cons_some hvisit
      refine ⟨?_, ?_, ?_, fun w => ?_⟩
      · rw [hvisits]
        exact .cons (fun ch hch => Nat.lt_succ_of_le (ih.bounded ch hch)) ih.descending
      · rw [hvisits, hgeneration]
        intro ch hch
        rcases List.mem_cons.1 hch with rfl | hold
        · exact Nat.le_refl _
        · exact Nat.le_succ_of_le (ih.bounded ch hold)
      · rw [hvisits, hgeneration, List.length_cons, ih.counted]
      · rw [hvisits, hmemory, Alias.recalled_note, List.find?_cons]
        by_cases hcovers : w.Covers c.navigation screen
        · rw [if_pos hcovers, decide_eq_true hcovers]
          rfl
        · rw [if_neg hcovers, decide_eq_false hcovers]
          exact ih.recalled w

namespace Logged

variable {w : Alias} {screen : ScreenId}

theorem recalled_eq_none_iff (h : Logged es f) : w.recalled f.state.navigation.memory = none ↔
    ∀ ch ∈ visits es, ¬ w.Covers c.navigation ch.screen := by
  rw [h.recalled, Option.map_eq_none_iff, List.find?_eq_none]
  simp only [decide_eq_true_eq]

theorem exists_newest (h : Logged es f) (hrecalled : w.recalled f.state.navigation.memory = some screen) :
    ∃ ch ∈ visits es, ch.screen = screen ∧ w.Covers c.navigation ch.screen ∧
      ∀ ch' ∈ visits es, w.Covers c.navigation ch'.screen → ch'.generation ≤ ch.generation := by
  rw [h.recalled, Option.map_eq_some_iff] at hrecalled
  obtain ⟨ch, hfind, rfl⟩ := hrecalled
  obtain ⟨hcovers, newer, older, hsplit, hnot⟩ := List.find?_eq_some_iff_append.1 hfind
  refine ⟨ch, hsplit ▸ List.mem_append_right _ List.mem_cons_self, rfl, of_decide_eq_true hcovers,
    fun ch' hch' hcovers' => ?_⟩
  -- What was visited later is not of the kind, and what was visited before has a lower generation.
  have hdescending := h.descending
  rw [hsplit] at hdescending hch'
  rcases List.mem_append.1 hch' with hnewer | hrest
  · have hnone := hnot ch' hnewer
    rw [decide_eq_true hcovers'] at hnone
    cases hnone
  · rcases List.mem_cons.1 hrest with rfl | holder
    · exact Nat.le_refl _
    · exact Nat.le_of_lt ((List.pairwise_cons.1 (List.pairwise_append.1 hdescending).2.1).1 ch' holder)

theorem eq_of_generation_eq (h : Logged es f) {ch ch' : ScreenChange} (hch : ch ∈ visits es) (hch' : ch' ∈ visits es)
    (hsame : ch.generation = ch'.generation) : ch = ch' := by
  have hnodup : ((visits es).map (·.generation)).Nodup := List.pairwise_map.2 (h.descending.imp fun hlt => hlt.ne')
  exact List.inj_on_of_nodup_map hnodup hch hch' hsame

theorem recalled_eq_some_iff (h : Logged es f) : w.recalled f.state.navigation.memory = some screen ↔
    ∃ ch ∈ visits es, ch.screen = screen ∧ w.Covers c.navigation ch.screen ∧
      ∀ ch' ∈ visits es, w.Covers c.navigation ch'.screen → ch'.generation ≤ ch.generation := by
  refine ⟨h.exists_newest, ?_⟩
  rintro ⟨ch, hch, rfl, hcovers, hnewest⟩
  cases hrecalled : w.recalled f.state.navigation.memory with
  | none => exact absurd hcovers (h.recalled_eq_none_iff.1 hrecalled ch hch)
  | some other =>
    obtain ⟨ch', hch', rfl, hcovers', hnewest'⟩ := h.exists_newest hrecalled
    have hsame : ch.generation = ch'.generation :=
      Nat.le_antisymm (hnewest' ch hch hcovers) (hnewest ch' hch' hcovers')
    rw [h.eq_of_generation_eq hch hch' hsame]

end Logged

structure Housed (es : List (protocol c).Event) (f : (protocol c).Flight) : Prop where
  before : (es.filterMap came?).length = 0 → f.state.navigation.registry = none ∧ visits es = []
  after : (es.filterMap came?).length ≤ 1 → ∀ ch ∈ visits es, ∃ registry,
    f.state.navigation.registry = some registry ∧ registry.contains ch.screen = true

theorem housed_of_trace (h : (protocol c).Trace allowed answers ⟨ofCatalog catalog, []⟩ es f) : Housed es f := by
  induction h with
  | start => exact ⟨fun _ => ⟨rfl, rfl⟩, fun _ _ h => absurd h List.not_mem_nil⟩
  | @step es e _ he ih =>
    cases hcame : came? e with
    | none =>
      have hregistry := registry_of_happens he hcame
      have hcames : (e :: es).filterMap came? = es.filterMap came? := List.filterMap_cons_none hcame
      cases sees_of_happens he with
      | stays hnone _ _ =>
        have hvisits : visits (e :: es) = visits es := List.filterMap_cons_none hnone
        refine ⟨?_, ?_⟩ <;> rw [hcames, hregistry, hvisits]
        · exact ih.before
        · exact ih.after
      | visits hvisit hloaded hin _ _ =>
        have hvisits : visits (e :: es) = _ :: visits es := List.filterMap_cons_some hvisit
        refine ⟨?_, ?_⟩ <;> rw [hcames]
        · intro hnever
          rw [hregistry, (ih.before hnever).1] at hloaded
          cases hloaded
        · intro honce
          rw [hvisits]
          refine List.forall_mem_cons.2 ⟨⟨_, hloaded, hin⟩, ?_⟩
          rw [hregistry]
          exact ih.after honce
    | some x =>
      have hcames : (e :: es).filterMap came? = x :: es.filterMap came? := List.filterMap_cons_some hcame
      refine ⟨?_, ?_⟩ <;> rw [hcames, List.length_cons]
      · intro hnever
        cases hnever
      · -- The first registry came just now, so the only visit there can be is the one that it opened on.
        intro honce
        have hvisited := (ih.before (by omega)).2
        cases sees_of_happens he with
        | stays hnone _ _ =>
          have hvisits : visits (e :: es) = visits es := List.filterMap_cons_none hnone
          rw [hvisits, hvisited]
          exact fun _ h => absurd h List.not_mem_nil
        | visits hvisit hloaded hin _ _ =>
          have hvisits : visits (e :: es) = _ :: visits es := List.filterMap_cons_some hvisit
          rw [hvisits, hvisited]
          exact List.forall_mem_cons.2 ⟨⟨_, hloaded, hin⟩, fun _ h => absurd h List.not_mem_nil⟩

/-- What an alias stands for, by the visits so far: the newest of its kind, each generation being that of one visit.
It is a registered screen; whoever goes to the alias is refused if there was no visit of the kind, and else is
taken to that screen, and the alias goes on standing for it. -/
structure Recalls (w : Alias) (es : List (protocol c).Event) (f : (protocol c).Flight) : Prop where
  counted : (visits es).length = f.state.stage.generation
  descending : (visits es).Pairwise fun ch ch' => ch'.generation < ch.generation
  newest : ∀ screen, w.recalled f.state.navigation.memory = some screen ↔
    ∃ ch ∈ visits es, ch.screen = screen ∧ w.Covers c.navigation ch.screen ∧
      ∀ ch' ∈ visits es, w.Covers c.navigation ch'.screen → ch'.generation ≤ ch.generation
  nothing : w.recalled f.state.navigation.memory = none ↔
    ∀ ch ∈ visits es, ¬ w.Covers c.navigation ch.screen
  registered : ∀ screen, w.recalled f.state.navigation.memory = some screen →
    ∃ registry, f.state.navigation.registry = some registry ∧ registry.contains screen = true
  refused : ∀ docs, (travel c.navigation docs w.route f.state.chart).value = none ↔
    ∀ ch ∈ visits es, ¬ w.Covers c.navigation ch.screen
  taken : ∀ docs screen, w.recalled f.state.navigation.memory = some screen →
    (travel c.navigation docs w.route f.state.chart).value = some screen ∧
    (travel c.navigation docs w.route f.state.chart).state.stage.Alone screen ∧
    w.recalled (travel c.navigation docs w.route f.state.chart).state.part.memory = some screen

theorem alias_recalls_newest_visit (h : (protocol c).Trace allowed answers ⟨ofCatalog catalog, []⟩ es f)
    (honce : (es.filterMap came?).length ≤ 1) (w : Alias) : Recalls w es f := by
  have hlogged := logged_of_trace h
  have hregistered : ∀ screen, w.recalled f.state.navigation.memory = some screen →
      ∃ registry, f.state.navigation.registry = some registry ∧ registry.contains screen = true := by
    intro screen hrecalled
    obtain ⟨ch, hch, rfl, -⟩ := hlogged.exists_newest hrecalled
    exact (housed_of_trace h).after honce ch hch
  have htaken : ∀ docs screen, w.recalled f.state.navigation.memory = some screen →
      (travel c.navigation docs w.route f.state.chart).state =
        Navigation.arrived c.navigation docs screen f.state.chart ∧
      (travel c.navigation docs w.route f.state.chart).value = some screen := by
    intro docs screen hrecalled
    obtain ⟨registry, hregistry, hin⟩ := hregistered screen hrecalled
    refine Navigation.travel_of_ok hregistry ((Screen.Memory.resolve_eq_ok_iff ..).2 ⟨?_, hin⟩)
    rw [Alias.lookUp?_route]
    exact hrecalled
  refine ⟨hlogged.counted, hlogged.descending, fun _ => hlogged.recalled_eq_some_iff, hlogged.recalled_eq_none_iff,
    hregistered, fun docs => ?_, fun docs screen hrecalled => ?_⟩
  · rw [← hlogged.recalled_eq_none_iff]
    cases hrecalled : w.recalled f.state.navigation.memory with
    | none =>
      have hbarred : f.state.chart.part.Barred w.route := .inr (.inl ((w.lookUp?_route _).trans hrecalled))
      simp only [(Navigation.travel_of_barred hbarred).2]
    | some screen => simp only [(htaken docs screen hrecalled).2, reduceCtorEq]
  · obtain ⟨hstate, hvalue⟩ := htaken docs screen hrecalled
    obtain ⟨ch, -, rfl, hcovers, -⟩ := hlogged.exists_newest hrecalled
    refine ⟨hvalue, ?_, ?_⟩
    · rw [hstate]
      exact Navigation.at_arrived.alone
    · rw [hstate]
      show w.recalled (f.state.navigation.memory.note c.navigation ch.screen) = some ch.screen
      rw [Alias.recalled_note, if_pos hcovers]

/-- The library and the story are passed while the regions of the yard are fetched, and the reader is back in the hall
when they come. -/
def passingMoves : List (Protocol.Move Call) :=
  [.begin (.boot none), .resume 0, .begin (.go "yard"), .begin (.go "library_east"), .begin (.go "story_a"),
    .begin (.go "hall"), .resume 1]

def passingEvents : List (protocol {}).Event :=
  Protocol.Flight.events (P := protocol {}) (sourceOf yardDocs) ⟨ofCatalog taleCatalog, []⟩ passingMoves

def passing : (protocol {}).Flight :=
  Protocol.Flight.play (P := protocol {}) (sourceOf yardDocs) ⟨ofCatalog taleCatalog, []⟩ passingMoves

theorem trace_passing : (protocol {}).Trace (fun _ => True) (Fixed yardDocs) ⟨ofCatalog taleCatalog, []⟩
    passingEvents passing :=
  Protocol.trace_script (fixed_sourceOf yardDocs) fun _ _ => trivial

theorem alias_recalls_newest_visit_passing_the_story :
    (protocol {}).Trace (fun _ => True) (Fixed yardDocs) ⟨ofCatalog taleCatalog, []⟩ passingEvents passing ∧
    (passingEvents.filterMap came?).length ≤ 1 ∧ (∀ w, Recalls w passingEvents passing) ∧
    visits passingEvents =
      [⟨⟨"hall"⟩, 5⟩, ⟨⟨"story_a"⟩, 4⟩, ⟨⟨"library_east"⟩, 3⟩, ⟨⟨"yard"⟩, 2⟩, ⟨⟨"hall"⟩, 1⟩] ∧
    Alias.story.recalled passing.state.navigation.memory = some ⟨"story_a"⟩ ∧
    Alias.library.recalled passing.state.navigation.memory = some ⟨"library_east"⟩ := by
  have honce : (passingEvents.filterMap came?).length ≤ 1 := by decide +kernel
  exact ⟨trace_passing, honce, alias_recalls_newest_visit trace_passing honce, by decide +kernel, by decide +kernel,
    by decide +kernel⟩

end App
end Gamebook
