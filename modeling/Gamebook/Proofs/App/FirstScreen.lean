import Gamebook.Proofs.App.Attempts
import Gamebook.Proofs.App.Unseen
import Gamebook.Proofs.Stage.Spotlight

/-! The screen that a boot shows. It is chosen when the registry comes, from the link and the registry alone;
it is shown if the registry has it, and nothing that the boot does after that shows another: `spotlight_resume`.
A boot returns well in either case. -/
namespace Gamebook

namespace Stage

theorem unseen_spotlight : Unseen spotlight where
  mount s screen panel := by
    show ((s.ensure screen).adjust screen fun f => { f with panel := some panel }).spotlight = s.spotlight
    rw [spotlight_adjust, spotlight_ensure]
    exact fun _ => rfl
  unmount s screen := by
    rw [unmount_eq]
    exact spotlight_adjust s screen fun _ => rfl
  scroll s screen top := spotlight_adjust s screen fun _ => rfl
  unlocked _ := rfl

end Stage

namespace Navigation

open Act
open Screen (Registry)

theorem keeps_spotlight_settle (w : Fitting) (reply : w.request.Reply) :
    Keeps (fun s => s.stage.spotlight) (settle w reply) := by
  intro s
  simp only [settle_state, announce, Fitting.resume_state]
  split
  · exact Stage.spotlight_replaceRegions ..
  · rfl

/-- The screen that a link names: what is left of it when it is trimmed, if that is not empty, and if it is
no alias but a screen of the registry. -/
def named? (aliases : AliasNames) (registry : Registry) (link : String) : Option ScreenId :=
  let text := Text.trim link
  if text ≠ "" ∧ text ≠ aliases.lastLibrary ∧ text ≠ aliases.lastStory ∧ registry.contains ⟨text⟩ = true then
    some ⟨text⟩
  else none

/-- The screen to show first: the one that the link names, or else the one that the registry starts on. -/
def landing (aliases : AliasNames) (registry : Registry) (link : Option String) : ScreenId :=
  (link.bind (named? aliases registry)).getD registry.start

/-- An alias stands for nothing before any screen was shown. -/
theorem first_eq_landing (c : NavigationSettings) (registry : Registry) (link : Option String) :
    first c registry link {} = landing c.aliases registry link := by
  cases link with
  | none => rfl
  | some link =>
    have htrimmed : Text.trimmed? link = if Text.trim link = "" then none else some (Text.trim link) := by
      simp only [Text.trimmed?, Text.trim_eq_empty_iff]
    have htrim := Text.trim_trim link
    simp only [first, landing, named?, Option.bind_some, htrimmed, Screen.Memory.resolve]
    generalize Text.trim link = text at htrim ⊢
    by_cases hempty : text = ""
    · simp [hempty]
    simp only [hempty, if_false, Screen.Route.ofText, htrim]
    by_cases hlibrary : text = c.aliases.lastLibrary
    · simp [hlibrary, Screen.Memory.lookUp?]
    by_cases hstory : text = c.aliases.lastStory
    · rw [if_neg hlibrary, if_pos hstory]
      simp [hstory, Screen.Memory.lookUp?]
    cases hin : registry.contains ⟨text⟩ <;> simp [hempty, hlibrary, hstory, Screen.Memory.lookUp?, hin]

/-- An alias wins over a screen of its name. -/
example : landing {} ⟨⟨"hall"⟩, [(⟨"hall"⟩, {}), (⟨"last_story"⟩, {})]⟩ (some "last_story") = ⟨"hall"⟩ := by
  decide +kernel

end Navigation

/-- What is shown once the registry has come: the screen to show first and no other, or none if the registry
does not have it. -/
structure Landed (registry : Screen.Registry) (screen : ScreenId) (s : Stage) : Prop where
  alone : registry.contains screen = true → s.Alone screen
  dark : registry.contains screen = false → s.Dark

namespace Landed

variable {registry : Screen.Registry} {screen : ScreenId} {s t : Stage}

theorem of_spotlight (h : Landed registry screen s) (hst : t.spotlight = s.spotlight) : Landed registry screen t where
  alone hin := (h.alone hin).of_spotlight hst
  dark hout := (h.dark hout).of_spotlight hst

/-- Nothing is shown before the registry comes, so if the first screen is refused nothing is shown then. -/
theorem of_entered {c : NavigationSettings} {s : Staged Navigation} (hdark : s.stage.Dark)
    {made : Made (Staged Navigation) (Progress Opening (Except LoadFault Unit))}
    (h : Navigation.Entered c registry screen s made) : Landed registry screen made.state.stage := by
  cases h with
  | moved hin hmoved hstate _ =>
    refine ⟨fun _ => hstate ▸ hmoved.alone, fun hout => ?_⟩
    rw [hin] at hout
    cases hout
  | refused hout hstate _ =>
    refine ⟨fun hin => ?_, fun _ => ?_⟩
    · rw [hout] at hin
      cases hin
    · rw [hstate]
      exact hdark.of_spotlight (Stage.spotlight_ensureAll registry.ids)

end Landed

namespace App

open Act

variable {answers : (r : Request) → r.Reply → Prop} {c : Settings} {first : Catalog} {link : Option String}

/-- Once a boot has its registry, it shows no other screen. -/
theorem spotlight_resume {a : App} {w : Booting} (haboard : Aboard a w) (reply : w.request.Reply) :
    (w.resume c reply a).state.stage.spotlight = a.stage.spotlight := by
  cases haboard with
  | regions f _ =>
    exact (Stage.unseen_spotlight.aside c).regions (fun a => Navigation.keeps_spotlight_settle f reply ⟨a.stage, a.navigation⟩) a
  | starting _ _ => exact (Stage.unseen_spotlight.aside c).starting _ reply a
  | pumping w _ =>
    exact ((Stage.unseen_spotlight.aside c).pumping w reply a).trans
      (Stage.unseen_spotlight.mounting c.story w.inner reply a.stories)

variable (answers c link) in
/-- The registry came in answer to a request, and the first screen was chosen from it. -/
def Lands (s : Stage) : Prop :=
  ∃ reply registry, answers (.document c.content.registryPath) reply ∧
    Screen.Registry.ofReply c.content.registryPath reply = .ok registry ∧
    Landed registry (Navigation.landing c.navigation.aliases registry link) s

variable (answers c first link) in
inductive Sails (a : App) : Progress Waiting Answer → Prop
  | asking : a = { ofCatalog first with booting := true } →
      Sails a (.waiting (.booting (.opening (.registry c.content.registryPath link))))
  | failed (cause : LoadFault) : Sails a (.done (.loaded (.error cause)))
  | underway {w : Booting} : Lands answers c link a.stage → Underway a → Aboard a w →
      Sails a (.waiting (.booting w))
  | through : Lands answers c link a.stage → Sails a (.done (.loaded (.ok ())))

theorem sails_of_launched {made : Made App (Progress Booting (Except LoadFault Unit))} (h : Launched made)
    (hlands : Lands answers c link made.state.stage) :
    Sails answers c first link made.state (made.value.map .booting .loaded) := by
  cases h with
  | under hunder haboard hvalue =>
    rw [hvalue]
    exact .underway hlands hunder haboard
  | through _ hvalue =>
    rw [hvalue]
    exact .through hlands

theorem sails_resume {a : App} {w : Waiting} (h : Sails answers c first link a (.waiting w))
    {reply : w.request.Reply} (hreply : answers w.request reply) :
    Sails answers c first link (resume c w reply a).state (resume c w reply a).value := by
  cases h with
  | asking hstart =>
    subst hstart
    show Sails answers c first link
      (Booting.resume c (.opening (.registry c.content.registryPath link)) reply _).state
      ((Booting.resume c (.opening (.registry c.content.registryPath link)) reply _).value.map .booting .loaded)
    cases hloaded : Screen.Registry.ofReply c.content.registryPath reply with
    | error cause =>
      rw [registry_error hloaded]
      exact .failed cause
    | ok registry =>
      refine sails_of_launched (launched_registry hloaded rfl rfl rfl) ⟨reply, registry, hreply, hloaded, ?_⟩
      have hentered := Navigation.entered_enter c.navigation registry link ⟨{}, {}⟩
      rw [Navigation.first_eq_landing] at hentered
      exact (Landed.of_entered Stage.dark_empty hentered).of_spotlight ((Stage.unseen_spotlight.aside c).registry hloaded _)
  | @underway w hlands hunder haboard =>
    obtain ⟨document, registry, hdocument, hloaded, hlanded⟩ := hlands
    refine sails_of_launched (launched_resume hunder haboard reply) ⟨document, registry, hdocument, hloaded, ?_⟩
    exact hlanded.of_spotlight (spotlight_resume haboard reply)

theorem sails_of_run {log : List (App × App)} {f : (protocol c).Flight}
    (h : (protocol c).Run (· = .boot link) answers ⟨ofCatalog first, []⟩ log f) :
    (f.courses = [] → f.state = ofCatalog first) ∧
      ∀ course, f.courses = [course] → Sails answers c first link f.state course.standing := by
  induction h with
  | start => exact ⟨fun _ => rfl, fun course hcourse => by cases hcourse⟩
  | step _ hstep ih =>
    cases hstep with
    | begin call hboot =>
      refine ⟨fun hnone => by simp at hnone, fun course hcourse => ?_⟩
      rw [← List.nil_append [course]] at hcourse
      obtain ⟨hfresh, hnew⟩ := List.append_inj' hcourse rfl
      obtain rfl := List.singleton_inj.1 hnew
      have hstate := ih.1 hfresh
      simp only at hstate
      subst hboot hstate
      exact .asking rfl
    | @resume s before after course w reply hw _ hreply =>
      refine ⟨fun hnone => by simp at hnone, fun course' hcourse => ?_⟩
      obtain ⟨rfl, hnext⟩ | ⟨-, hnone⟩ := List.append_eq_singleton_iff.1 hcourse
      · obtain ⟨rfl, rfl⟩ := List.cons.inj hnext
        have hsails := ih.2 course rfl
        rw [hw] at hsails
        exact sails_resume hsails hreply
      · cases hnone

/-- A boot that nothing overlaps shows the first screen, if it returns well and the registry has that screen; if
the registry does not have it, none is shown. -/
theorem lands_of_boot {log : List (App × App)} {f : (protocol c).Flight} {course : (protocol c).Course}
    (h : (protocol c).Run (· = .boot link) answers ⟨ofCatalog first, []⟩ log f) (halone : f.courses = [course])
    (hok : course.standing = .done (.loaded (.ok ()))) :
    ∃ reply registry, answers (.document c.content.registryPath) reply ∧
      Screen.Registry.ofReply c.content.registryPath reply = .ok registry ∧
      Landed registry (Navigation.landing c.navigation.aliases registry link) f.state.stage := by
  have hsails := (sails_of_run h).2 course halone
  rw [hok] at hsails
  cases hsails with
  | through hlands => exact hlands

/-- A source with the registry of a house; it starts in the hall. -/
def houseDocs (rooms : List String) (path : String) : Except SourceFault Json.Value :=
  if path = "sec/screen_registry.json" then
    .ok (.object [("start_screen", .string "hall"), ("screens", .object (rooms.map fun room => (room, .object [])))])
  else .error (.notFound path)

def houseBoot (rooms : List String) (link : Option String) : (protocol {}).Flight :=
  Protocol.Flight.play (P := protocol {}) (sourceOf (houseDocs rooms)) ⟨ofCatalog (.fixed []), []⟩
    [.begin (.boot link), .resume 0]

theorem run_houseBoot (rooms : List String) (link : Option String) :
    ∃ log, (protocol {}).Run (· = .boot link) (Fixed (houseDocs rooms)) ⟨ofCatalog (.fixed []), []⟩ log
      (houseBoot rooms link) :=
  Protocol.exists_run_play (fixed_sourceOf (houseDocs rooms)) (by simp) .start

theorem exists_loaded_course {f : (protocol c).Flight}
    (h : f.courses.map (fun course => returnedOk course.standing) = [true]) :
    ∃ course, f.courses = [course] ∧ course.standing = .done (.loaded (.ok ())) := by
  obtain ⟨course, hcourse, hok⟩ := List.map_eq_singleton_iff.1 h
  exact ⟨course, hcourse, eq_of_returnedOk hok⟩

theorem lands_of_boot_in_the_attic :
    (∃ log, (protocol {}).Run (· = .boot (some " attic ")) (Fixed (houseDocs ["hall", "attic"]))
      ⟨ofCatalog (.fixed []), []⟩ log (houseBoot ["hall", "attic"] (some " attic "))) ∧
    (∃ course, (houseBoot ["hall", "attic"] (some " attic ")).courses = [course] ∧
      course.standing = .done (.loaded (.ok ()))) ∧
    (houseBoot ["hall", "attic"] (some " attic ")).state.stage.Alone ⟨"attic"⟩ := by
  have hcourse : ∃ course, (houseBoot ["hall", "attic"] (some " attic ")).courses = [course] ∧
      course.standing = .done (.loaded (.ok ())) :=
    exists_loaded_course (by decide +kernel)
  refine ⟨run_houseBoot _ _, hcourse, ?_⟩
  obtain ⟨log, hrun⟩ := run_houseBoot ["hall", "attic"] (some " attic ")
  obtain ⟨course, halone, hok⟩ := hcourse
  obtain ⟨reply, registry, hreply, hloaded, hlanded⟩ := lands_of_boot hrun halone hok
  have hreply : reply = houseDocs ["hall", "attic"] "sec/screen_registry.json" := hreply
  have hregistry : Screen.Registry.ofReply "sec/screen_registry.json"
      (houseDocs ["hall", "attic"] "sec/screen_registry.json") =
      .ok ⟨⟨"hall"⟩, [(⟨"hall"⟩, {}), (⟨"attic"⟩, {})]⟩ := by
    decide +kernel
  subst hreply
  obtain rfl := Except.ok.inj (hregistry.symm.trans hloaded)
  have hlanding : Navigation.landing {} ⟨⟨"hall"⟩, [(⟨"hall"⟩, {}), (⟨"attic"⟩, {})]⟩ (some " attic ") =
      ⟨"attic"⟩ := by
    decide +kernel
  exact hlanding ▸ hlanded.alone (by decide +kernel)

/-- A house without a hall: the boot returns well, and no screen is shown. -/
theorem nothing_shown_without_start :
    (∃ log, (protocol {}).Run (· = .boot none) (Fixed (houseDocs ["attic"])) ⟨ofCatalog (.fixed []), []⟩ log
      (houseBoot ["attic"] none)) ∧
    (∃ course, (houseBoot ["attic"] none).courses = [course] ∧ course.standing = .done (.loaded (.ok ()))) ∧
    Screen.Registry.ofReply "sec/screen_registry.json" (houseDocs ["attic"] "sec/screen_registry.json") =
      .ok ⟨⟨"hall"⟩, [(⟨"attic"⟩, {})]⟩ ∧
    ¬ ∃ screen, (houseBoot ["attic"] none).state.stage.active = some screen := by
  have hactive : (houseBoot ["attic"] none).state.stage.active = none := by decide +kernel
  refine ⟨run_houseBoot _ _, exists_loaded_course (by decide +kernel), by decide +kernel, ?_⟩
  simp [hactive]

end App
end Gamebook
