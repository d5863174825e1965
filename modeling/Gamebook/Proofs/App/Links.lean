import Gamebook.Proofs.App.Recall
import Gamebook.Proofs.App.Seeks
import Gamebook.Proofs.Session.Calls

/-! Links that lead back. The fragment of a stage is the name of the screen that it shows, as it is written in the
registry; a link is trimmed, taken for an alias first, and counts for nothing if it is blank. `Reachable` is kept by
all that moves a player, and says of a name how it may differ from what a link makes of it. -/
namespace Gamebook

namespace Navigation

open Screen (Registry Route Memory Alias)

variable {aliases : AliasNames} {registry : Registry} {screen : ScreenId}

/-- A screen whose name leads to it: it is as it is when trimmed, and no alias. -/
structure Spelled (aliases : AliasNames) (screen : ScreenId) : Prop where
  trimmed : Text.trim screen.text = screen.text
  library : screen.text ≠ aliases.lastLibrary
  story : screen.text ≠ aliases.lastStory

/-- A screen that a player can come to. Only the registry itself names a screen in another way. -/
structure Reachable (aliases : AliasNames) (registry : Registry) (screen : ScreenId) : Prop where
  registered : registry.contains screen = true
  spelled : screen ≠ registry.start → Spelled aliases screen

/-- A screen that a link with its name does not lead to. A blank name is no link, so it leads to where the registry
starts; and the name of the screen where it starts may be that of another one when it is trimmed. -/
inductive Astray (aliases : AliasNames) (registry : Registry) (screen : ScreenId) : Prop
  | blank : screen.text = "" → screen ≠ registry.start → Astray aliases registry screen
  | trimmed {other : ScreenId} : screen = registry.start → named? aliases registry screen.text = some other →
      other ≠ screen → Astray aliases registry screen

theorem named?_eq_some_iff {link : String} : named? aliases registry link = some screen ↔
    screen.text = Text.trim link ∧ screen.text ≠ "" ∧ screen.text ≠ aliases.lastLibrary ∧
      screen.text ≠ aliases.lastStory ∧ registry.contains screen = true := by
  simp only [named?]
  constructor
  · intro h
    split at h
    · rename_i hnamed
      cases h
      exact ⟨rfl, hnamed⟩
    · cases h
  · rintro ⟨htext, hnamed⟩
    obtain ⟨text⟩ := screen
    subst htext
    exact if_pos hnamed

theorem named?_of_spelled (h : Spelled aliases screen) (hin : registry.contains screen = true)
    (hblank : screen.text ≠ "") : named? aliases registry screen.text = some screen :=
  named?_eq_some_iff.2 ⟨h.trimmed.symm, hblank, h.library, h.story, hin⟩

/-- The screen that a link with the name of a screen leads to. -/
theorem landing_eq_iff (h : Reachable aliases registry screen) :
    landing aliases registry (some screen.text) = screen ↔ ¬ Astray aliases registry screen := by
  cases hnamed : named? aliases registry screen.text with
  | none =>
    -- The link leads to the start. Another screen is spelled out, so its link can only be blank.
    simp only [landing, Option.bind_some, hnamed, Option.getD_none]
    constructor
    · rintro rfl (⟨-, hother⟩ | ⟨-, hsome, -⟩)
      · exact hother rfl
      · rw [hnamed] at hsome
        cases hsome
    · intro hleads
      by_contra hother
      have hblank : screen.text = "" := by
        by_contra hblank
        rw [named?_of_spelled (h.spelled (Ne.symm hother)) h.registered hblank] at hnamed
        cases hnamed
      exact hleads (.blank hblank (Ne.symm hother))
  | some other =>
    -- The link leads to what is left of the name when it is trimmed; only the start may be named otherwise.
    simp only [landing, Option.bind_some, hnamed, Option.getD_some]
    constructor
    · rintro rfl (⟨hblank, -⟩ | ⟨-, hsome, hdiffers⟩)
      · exact (named?_eq_some_iff.1 hnamed).2.1 hblank
      · rw [hnamed] at hsome
        exact hdiffers (Option.some.inj hsome).symm
    · intro hleads
      by_contra hdiffers
      by_cases hstart : screen = registry.start
      · exact hleads (.trimmed hstart hnamed hdiffers)
      · have hspelled := h.spelled hstart
        obtain ⟨htext, hblank, -⟩ := named?_eq_some_iff.1 hnamed
        rw [hspelled.trimmed] at htext
        rw [htext] at hblank
        rw [named?_of_spelled hspelled h.registered hblank] at hnamed
        exact hdiffers (Option.some.inj hnamed).symm

theorem reachable_of_text {m : Memory} (hm : ∀ (w : Alias) screen, w.recalled m = some screen →
    Reachable aliases registry screen) {raw : String} (hlook : m.lookUp? (Route.ofText aliases raw) = some screen)
    (hin : registry.contains screen = true) : Reachable aliases registry screen := by
  simp only [Route.ofText] at hlook
  split at hlook
  · exact hm .library screen hlook
  · rename_i hlibrary
    split at hlook
    · exact hm .story screen hlook
    · rename_i hstory
      cases hlook
      exact ⟨hin, fun _ => ⟨Text.trim_trim raw, hlibrary, hstory⟩⟩

theorem reachable_first {c : NavigationSettings} {m : Memory} (hm : ∀ (w : Alias) screen, w.recalled m = some screen →
    Reachable c.aliases registry screen) (link : Option String)
    (hin : registry.contains (first c registry link m) = true) :
    Reachable c.aliases registry (first c registry link m) := by
  have hstart : ∀ {screen}, screen = registry.start → registry.contains screen = true →
      Reachable c.aliases registry screen := fun hstart hin => ⟨hin, fun hother => absurd hstart hother⟩
  unfold first at hin ⊢
  split
  · rename_i hnone
    rw [hnone] at hin
    exact hstart rfl hin
  · rename_i text hlink
    rw [hlink] at hin
    simp only at hin ⊢
    cases hresolve : m.resolve (Route.ofText c.aliases text) registry with
    | error cause =>
      rw [hresolve] at hin
      exact hstart rfl hin
    | ok screen =>
      obtain ⟨hlook, hcontains⟩ := (Memory.resolve_eq_ok_iff ..).1 hresolve
      exact reachable_of_text hm hlook hcontains

end Navigation

theorem Landed.active_eq_some_iff {registry : Screen.Registry} {first screen : ScreenId} {s : Stage}
    (h : Landed registry first s) (hin : registry.contains screen = true) : s.active = some screen ↔ first = screen := by
  cases hfirst : registry.contains first with
  | true => rw [(h.alone hfirst).active, Option.some.injEq]
  | false =>
    rw [(h.dark hfirst).active]
    refine ⟨nofun, ?_⟩
    rintro rfl
    rw [hin] at hfirst
    cases hfirst

/-- Where a player is that has only ever had one registry: the fragment names the screen that it shows, and it shows
and remembers screens that it can come to. -/
structure Bearings.Charted (aliases : AliasNames) (registry : Screen.Registry) (b : Bearings) : Prop where
  fragment : b.fragment = b.active
  only : ∀ loaded, b.registry = some loaded → loaded = registry
  active : ∀ screen, b.active = some screen → Navigation.Reachable aliases registry screen
  recalled : ∀ (w : Screen.Alias) screen, w.recalled b.memory = some screen →
    Navigation.Reachable aliases registry screen

namespace Bearings.Charted

open Navigation (Reachable)
open Screen (Registry Route Alias)

variable {c : NavigationSettings} {registry : Registry} {b : Bearings}

theorem shown {screen : ScreenId} (h : b.Charted c.aliases registry) (hreach : Reachable c.aliases registry screen) :
    (b.shown c screen).Charted c.aliases registry where
  fragment := rfl
  only := h.only
  active other hother := by
    obtain rfl := Option.some.inj hother
    exact hreach
  recalled w other hother := by
    simp only [Bearings.shown, Alias.recalled_note] at hother
    split at hother
    · obtain rfl := Option.some.inj hother
      exact hreach
    · exact h.recalled w other hother

theorem gone {route : Route} (h : b.Charted c.aliases registry)
    (hroute : ∀ screen, b.memory.lookUp? route = some screen → registry.contains screen = true →
      Reachable c.aliases registry screen) : (b.gone c route).Charted c.aliases registry := by
  cases hleads : b.leads? route with
  | none =>
    rw [Bearings.gone_of_none hleads]
    exact h
  | some screen =>
    obtain ⟨loaded, hloaded, hlook, hin⟩ := Bearings.leads?_eq_some.1 hleads
    obtain rfl := h.only loaded hloaded
    rw [Bearings.gone_of_some hleads]
    exact h.shown (hroute screen hlook hin)

theorem opened (h : b.Charted c.aliases registry) (link : Option String) :
    (b.opened c registry link).Charted c.aliases registry := by
  have hnew : Bearings.Charted c.aliases registry { b with registry := some registry } :=
    ⟨h.fragment, fun loaded hloaded => (Option.some.inj hloaded).symm, h.active, h.recalled⟩
  refine hnew.gone fun screen hlook hin => ?_
  obtain rfl := Option.some.inj hlook
  exact Navigation.reachable_first h.recalled link hin

end Bearings.Charted

namespace App

open Navigation (Reachable Astray landing)
open Screen (Registry Route)
open Session (Due)

variable {c : Settings} {catalog : Catalog} {docs : String → Except SourceFault Json.Value}
variable {env : (r : Request) → r.Reply} {registry : Registry} {screen : ScreenId}
variable {es : List (protocol c).Event} {f : (protocol c).Flight}

theorem exists_text_of_route? {a : App} {call : Call} {route : Route} (hplays : call.Plays)
    (h : route? c a call = some route) : ∃ raw, route = .ofText c.navigation.aliases raw := by
  have hasked : (asks? a call).map (Route.ofText c.navigation.aliases) = some route := by
    cases call with
    | boot | go | tap | choose | pump => exact h
    | _ => exact hplays.elim
  obtain ⟨raw, -, hraw⟩ := Option.map_eq_some_iff.1 hasked
  exact ⟨raw, hraw.symm⟩

theorem charted_of_trace (h : (protocol c).Trace Call.Plays (Fixed docs) ⟨ofCatalog catalog, []⟩ es f)
    (hloaded : Registry.ofReply c.content.registryPath (docs c.content.registryPath) = .ok registry) :
    f.state.bearings.Charted c.navigation.aliases registry := by
  refine bearings_induction (P := Bearings.Charted c.navigation.aliases registry) h ?_ ?_ ?_
  · exact ⟨rfl, nofun, nofun, fun w => by cases w <;> exact nofun⟩
  · intro a call route hplays hroute hcharted
    obtain ⟨raw, rfl⟩ := exists_text_of_route? hplays hroute
    exact hcharted.gone fun screen hlook hin => Navigation.reachable_of_text hcharted.recalled hlook hin
  · -- The documents are fixed, so it is the same registry each time.
    rintro b loaded link ⟨e, he, hcame⟩ hcharted
    obtain ⟨reply, hreply, hread⟩ := read_of_came h he hcame
    obtain rfl : reply = docs c.content.registryPath := hreply
    obtain rfl := Except.ok.inj (hloaded.symm.trans hread)
    exact hcharted.opened link

variable (c catalog) in
def visiting (env : (r : Request) → r.Reply) (link : String) : (protocol c).Flight :=
  Protocol.Flight.move (P := protocol c) env ⟨ofCatalog catalog, []⟩ (.begin (.boot (some link)))

variable (c catalog) in
/-- Such a player once all its requests were answered; the boot makes six at most. -/
def visited (env : (r : Request) → r.Reply) (link : String) : (protocol c).Flight :=
  (visiting c catalog env link).play env (List.replicate 6 (.resume 0))

theorem play_replicate (f : (protocol c).Flight) (n : Nat) : f.play env (List.replicate (n + 1) (.resume 0)) =
    (f.move env (.resume 0)).play env (List.replicate n (.resume 0)) := rfl

theorem pending_of_alone {course : (protocol c).Course} (h : f.courses = [course]) :
    f.pending = course.standing.pending := by
  simp [Protocol.Flight.pending, Protocol.Flight.standings, h]

variable (env) in
theorem move_of_waiting {course : (protocol c).Course} {w : Waiting} (h : f.courses = [course])
    (hw : course.standing = .waiting w) (hready : (protocol c).ready f.state w = true) :
    f.move env (.resume 0) = ⟨(resume c w (env w.request) f.state).state, [course.next w (env w.request) f.state]⟩ := by
  simp only [Protocol.Flight.move, h, List.getElem?_cons_zero, hw, hready, if_true, List.set_cons_zero]
  rfl

theorem move_of_done {course : (protocol c).Course} {answer : Answer} (h : f.courses = [course])
    (hdone : course.standing = .done answer) : f.move env (.resume 0) = f := by
  simp only [Protocol.Flight.move, h, List.getElem?_cons_zero, hdone]

/-- A lone call that is bound to get its answer has got it after so many requests. -/
theorem answered_of_due (henv : ∀ r, Fixed docs r (env r)) {n : Nat} {answer : Answer} {log : List (App × App)}
    {course : (protocol c).Course} (hrun : (protocol c).Run Call.Plays (Fixed docs) ⟨ofCatalog catalog, []⟩ log f)
    (hcourse : f.courses = [course]) (hdue : Due answer n course.standing) :
    ∃ course, (f.play env (List.replicate n (.resume 0))).courses = [course] ∧ course.standing = .done answer := by
  -- Each reply leaves fewer requests to make; once the call is done, a move changes nothing.
  induction n generalizing f log course with
  | zero =>
    generalize hp : course.standing = p at hdue
    cases hdue with
    | done => exact ⟨course, hcourse, hp⟩
    | waiting _ _ hn => exact absurd hn (Nat.not_lt_zero _)
  | succ n ih =>
    rw [play_replicate]
    generalize hp : course.standing = p at hdue
    cases hdue with
    | done =>
      rw [move_of_done hcourse hp]
      exact ih hrun hcourse (hp ▸ .done)
    | @waiting w hbound houtcome hn =>
      obtain ⟨⟨queue, haloft⟩, -⟩ := aloft_of_run hrun
      have hpending : f.pending = {w} := by rw [pending_of_alone hcourse, hp, Progress.pending_waiting]
      rw [hpending] at haloft
      obtain ⟨log', hrun'⟩ := hrun.move henv (m := .resume 0) nofun
      rw [move_of_waiting env hcourse hp (Session.ready_of_alone haloft)] at hrun' ⊢
      rw [← add_zero ({w} : Multiset Waiting)] at haloft
      have hnext := Session.due_of_nearer (nearer_resume haloft hbound (env w.request)) (Nat.le_of_lt_succ hn)
      rw [houtcome] at hnext
      exact ih hrun' rfl hnext

variable (c catalog docs env) in
theorem run_visiting (link : String) : ∃ log, (protocol c).Run (· = .boot (some link)) (Fixed docs)
    ⟨ofCatalog catalog, []⟩ log (visiting c catalog env link) :=
  ⟨_, .step .start (.begin (P := protocol c) (Call.boot (some link)) rfl)⟩

variable (catalog) in
theorem run_visited (henv : ∀ r, Fixed docs r (env r)) (link : String) :
    ∃ log, (protocol c).Run (· = .boot (some link)) (Fixed docs) ⟨ofCatalog catalog, []⟩ log
      (visited c catalog env link) := by
  obtain ⟨log, hvisiting⟩ := run_visiting c catalog docs env link
  exact Protocol.exists_run_play henv (fun call hcall => by simp at hcall) hvisiting

variable (catalog) in
theorem visited_returns (henv : ∀ r, Fixed docs r (env r))
    (hloaded : Registry.ofReply c.content.registryPath (docs c.content.registryPath) = .ok registry) (link : String) :
    ∃ course, (visited c catalog env link).courses = [course] ∧ course.standing = .done (.loaded (.ok ())) := by
  let asker : Waiting := .booting (.opening (.registry c.content.registryPath (some link)))
  let asking := visiting c catalog env link
  obtain ⟨_, hasking⟩ := run_visiting c catalog docs env link
  have hplays : ∀ call, call = Call.boot (some link) → call.Plays := fun call hcall => hcall ▸ trivial
  obtain ⟨log, hrun⟩ := (hasking.mono hplays).move henv (m := .resume 0) nofun
  have hreply : env asker.request = docs c.content.registryPath := henv (.document c.content.registryPath)
  have hnearer : Nearer asker (resume c asker (env asker.request) asking.state).value := by
    rw [hreply]
    exact nearer_registry hloaded (some link) _
  have hdue : Due (.loaded (.ok ())) 5 (resume c asker (env asker.request) asking.state).value :=
    Session.due_of_nearer hnearer (Nat.le_refl 5)
  have hmove := move_of_waiting env (f := asking) (w := asker) rfl rfl rfl
  rw [hmove] at hrun
  rw [visited, play_replicate, hmove]
  exact answered_of_due henv hrun rfl hdue

/-- Whatever someone plays, the fragment names the screen that is shown; and a new player that is booted with the
fragment for its link returns well, and shows that screen unless its name leads astray. -/
theorem fragment_leads_back_unless_astray
    (h : (protocol c).Trace Call.Plays (Fixed docs) ⟨ofCatalog catalog, []⟩ es f)
    (hloaded : Registry.ofReply c.content.registryPath (docs c.content.registryPath) = .ok registry)
    (henv : ∀ r, Fixed docs r (env r)) (hfragment : f.state.stage.fragment = some screen) :
    f.state.stage.active = some screen ∧
    (∃ course, (visited c catalog env screen.text).courses = [course] ∧
      course.standing = .done (.loaded (.ok ()))) ∧
    ((visited c catalog env screen.text).state.stage.active = some screen ↔
      ¬ Astray c.navigation.aliases registry screen) := by
  have hcharted := charted_of_trace h hloaded
  have hactive : f.state.stage.active = some screen := hcharted.fragment.symm.trans hfragment
  have hreach : Reachable c.navigation.aliases registry screen := hcharted.active screen hactive
  obtain ⟨course, halone, hok⟩ := visited_returns catalog henv hloaded screen.text
  have hlanded : Landed registry (landing c.navigation.aliases registry (some screen.text))
      (visited c catalog env screen.text).state.stage := by
    obtain ⟨log, hrun⟩ := run_visited catalog henv screen.text
    obtain ⟨reply, loaded, hreply, hread, hlanded⟩ := lands_of_boot hrun halone hok
    obtain rfl : reply = docs c.content.registryPath := hreply
    obtain rfl := Except.ok.inj (hloaded.symm.trans hread)
    exact hlanded
  refine ⟨hactive, ⟨course, halone, hok⟩, ?_⟩
  rw [hlanded.active_eq_some_iff hreach.registered, Navigation.landing_eq_iff hreach]

def roomMoves (room : String) : List (Protocol.Move Call) := [.begin (.boot none), .resume 0, .begin (.go room)]

def roomEvents (room : String) : List (protocol {}).Event :=
  Protocol.Flight.events (P := protocol {}) (sourceOf (houseDocs ["hall", room])) ⟨ofCatalog (.fixed []), []⟩
    (roomMoves room)

def inRoom (room : String) : (protocol {}).Flight :=
  Protocol.Flight.play (P := protocol {}) (sourceOf (houseDocs ["hall", room])) ⟨ofCatalog (.fixed []), []⟩
    (roomMoves room)

theorem trace_inRoom (room : String) : (protocol {}).Trace Call.Plays (Fixed (houseDocs ["hall", room]))
    ⟨ofCatalog (.fixed []), []⟩ (roomEvents room) (inRoom room) :=
  Protocol.trace_script (fixed_sourceOf _) fun call hcall => by
    simp only [roomMoves, List.mem_cons, List.not_mem_nil, or_false, Protocol.Move.begin.injEq, reduceCtorEq,
      false_or] at hcall
    rcases hcall with rfl | rfl <;> trivial

theorem fragment_leads_back_unless_astray_to_the_attic :
    (protocol {}).Trace Call.Plays (Fixed (houseDocs ["hall", "attic"])) ⟨ofCatalog (.fixed []), []⟩
      (roomEvents "attic") (inRoom "attic") ∧
    (inRoom "attic").state.stage.fragment = some ⟨"attic"⟩ ∧
    ¬ Astray {} ⟨⟨"hall"⟩, [(⟨"hall"⟩, {}), (⟨"attic"⟩, {})]⟩ ⟨"attic"⟩ ∧
    (visited {} (.fixed []) (sourceOf (houseDocs ["hall", "attic"])) "attic").state.stage.active = some ⟨"attic"⟩ := by
  have htrace := trace_inRoom "attic"
  have hfragment : (inRoom "attic").state.stage.fragment = some ⟨"attic"⟩ := by decide +kernel
  have hloaded : Registry.ofReply "sec/screen_registry.json" (houseDocs ["hall", "attic"] "sec/screen_registry.json") =
      .ok ⟨⟨"hall"⟩, [(⟨"hall"⟩, {}), (⟨"attic"⟩, {})]⟩ := by
    decide +kernel
  have hleads : ¬ Astray {} ⟨⟨"hall"⟩, [(⟨"hall"⟩, {}), (⟨"attic"⟩, {})]⟩ ⟨"attic"⟩ := by
    rintro (⟨hblank, -⟩ | ⟨hstart, -, -⟩)
    · exact absurd hblank (by decide)
    · exact absurd hstart (by decide)
  obtain ⟨-, -, hshown⟩ := fragment_leads_back_unless_astray htrace hloaded (fixed_sourceOf _) hfragment
  exact ⟨htrace, hfragment, hleads, hshown.2 hleads⟩

/-- A run after which a fragment leads to another screen. -/
structure Strays (docs : String → Except SourceFault Json.Value) (es : List (protocol {}).Event)
    (f : (protocol {}).Flight) (screen other : ScreenId) : Prop where
  trace : (protocol {}).Trace Call.Plays (Fixed docs) ⟨ofCatalog (.fixed []), []⟩ es f
  loaded : ∃ registry, Registry.ofReply "sec/screen_registry.json" (docs "sec/screen_registry.json") = .ok registry
  quiet : ∀ course ∈ f.courses, course.standing.isDone = true
  fragment : f.state.stage.fragment = some screen
  active : f.state.stage.active = some screen
  returned : (visited {} (.fixed []) (sourceOf docs) screen.text).courses.map
    (fun course => returnedOk course.standing) = [true]
  shown : (visited {} (.fixed []) (sourceOf docs) screen.text).state.stage.active = some other

def spacedDocs (path : String) : Except SourceFault Json.Value :=
  if path = "sec/screen_registry.json" then
    .ok (.object [("start_screen", .string " hall "),
      ("screens", .object [(" hall ", .object []), ("hall", .object [])])])
  else .error (.notFound path)

def spacedEvents : List (protocol {}).Event :=
  Protocol.Flight.events (P := protocol {}) (sourceOf spacedDocs) ⟨ofCatalog (.fixed []), []⟩
    [.begin (.boot none), .resume 0]

def spaced : (protocol {}).Flight :=
  Protocol.Flight.play (P := protocol {}) (sourceOf spacedDocs) ⟨ofCatalog (.fixed []), []⟩
    [.begin (.boot none), .resume 0]

/-- A room without a name can be gone to, but a link cannot name it; and the spaces around a name are lost. -/
theorem fragment_leads_elsewhere :
    Strays (houseDocs ["hall", ""]) (roomEvents "") (inRoom "") ⟨""⟩ ⟨"hall"⟩ ∧
    Strays spacedDocs spacedEvents spaced ⟨" hall "⟩ ⟨"hall"⟩ := by
  have hspaced : (protocol {}).Trace Call.Plays (Fixed spacedDocs) ⟨ofCatalog (.fixed []), []⟩ spacedEvents spaced :=
    Protocol.trace_script (fixed_sourceOf _) fun call hcall => by
      simp only [List.mem_cons, List.not_mem_nil, or_false, Protocol.Move.begin.injEq, reduceCtorEq] at hcall
      exact hcall ▸ trivial
  constructor
  · exact ⟨trace_inRoom "", ⟨⟨⟨"hall"⟩, [(⟨"hall"⟩, {}), (⟨""⟩, {})]⟩, by decide +kernel⟩, by decide +kernel,
      by decide +kernel, by decide +kernel, by decide +kernel, by decide +kernel⟩
  · exact ⟨hspaced, ⟨⟨⟨" hall "⟩, [(⟨" hall "⟩, {}), (⟨"hall"⟩, {})]⟩, by decide +kernel⟩, by decide +kernel,
      by decide +kernel, by decide +kernel, by decide +kernel, by decide +kernel⟩

end App
end Gamebook
