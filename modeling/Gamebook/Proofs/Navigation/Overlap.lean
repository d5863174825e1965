import Gamebook.Proofs.Interleaving
import Gamebook.Proofs.Navigation.Steps

/-! Navigations that overlap. Each accepted one opens a generation above all earlier ones, so that the
newest is the one whose generation the stage still has; only its regions are ever taken. What a fetch in
flight may do is tied to the generation that its navigation opened: `Orderly` says so of a whole flight,
and every step keeps it. -/
namespace Gamebook.Navigation

def protocol (c : NavigationSettings) :
    Protocol (Staged Navigation) Screen.Route Fitting (Option ScreenId) where
  request := Fitting.request
  begin := go c
  resume w reply := do return .done (← settle w reply)
  ready _ _ := true

/-- The change that a navigation makes with its first step; none if it is refused. -/
def accepted? (opening : Made (Staged Navigation) (Progress Fitting (Option ScreenId))) :
    Option ScreenChange :=
  match opening.value with
  | .done answer => answer.map fun screen => ⟨screen, opening.state.stage.generation⟩
  | .waiting w => some ⟨w.screen, opening.state.stage.generation⟩

section Orderly

variable {c : NavigationSettings}

def accepted (courses : List (protocol c).Course) : List ScreenChange :=
  courses.filterMap fun course => accepted? course.opening

theorem mem_accepted {courses : List (protocol c).Course} {course : (protocol c).Course}
    {ch : ScreenChange} (hc : course ∈ courses) (ha : accepted? course.opening = some ch) :
    ch ∈ accepted courses :=
  List.mem_filterMap.2 ⟨course, hc, ha⟩

theorem accepted_append (courses : List (protocol c).Course) (course : (protocol c).Course) :
    accepted (courses ++ [course]) = accepted courses ++ (accepted? course.opening).toList := by
  simp only [accepted, List.filterMap_append, List.filterMap_cons, List.filterMap_nil]
  cases accepted? course.opening <;> rfl

theorem accepted_split (before after : List (protocol c).Course) (course : (protocol c).Course) :
    accepted (before ++ course :: after) =
      accepted before ++ ((accepted? course.opening).toList ++ accepted after) := by
  simp only [accepted, List.filterMap_append, List.filterMap_cons]
  cases accepted? course.opening <;> rfl

/-- Where a navigation stands, and what it has left on a stage that is still of its generation. -/
inductive Stands (registry : Screen.Registry) (stage : Stage) (course : (protocol c).Course) : Prop
  | refused : accepted? course.opening = none → course.standing = .done none →
      Stands registry stage course
  | plain {ch : ScreenChange} : accepted? course.opening = some ch →
      document? registry ch.screen = none → course.standing = .done (some ch.screen) →
      (ch.generation = stage.generation → stage.regions ch.screen = []) → Stands registry stage course
  | waiting {ch : ScreenChange} {document : Resource} : accepted? course.opening = some ch →
      document? registry ch.screen = some document → course.exchanges = [] →
      course.standing = .waiting ⟨document, ch.screen, ch.generation⟩ → Stands registry stage course
  | settled {ch : ScreenChange} {document : Resource} (reply : Except SourceFault Json.Value) :
      accepted? course.opening = some ch → document? registry ch.screen = some document →
      course.exchanges = [⟨⟨document, ch.screen, ch.generation⟩, reply⟩] →
      course.standing = .done (some ch.screen) →
      (ch.generation = stage.generation → stage.regions ch.screen = Fitting.regions reply) →
      Stands registry stage course

/-- A course stands where it stood as long as a stage of its generation keeps the regions. -/
theorem Stands.of_regions {registry : Screen.Registry} {stage stage' : Stage}
    {course : (protocol c).Course} (h : Stands registry stage course)
    (hkeep : ∀ {ch}, accepted? course.opening = some ch → ch.generation = stage'.generation →
      ch.generation = stage.generation ∧ stage'.regions ch.screen = stage.regions ch.screen) :
    Stands registry stage' course := by
  cases h with
  | refused ha hs => exact .refused ha hs
  | plain ha hd hs hr =>
    refine .plain ha hd hs fun hg => ?_
    obtain ⟨hg', hsame⟩ := hkeep ha hg
    exact hsame.trans (hr hg')
  | waiting ha hd he hs => exact .waiting ha hd he hs
  | settled reply ha hd he hs hr =>
    refine .settled reply ha hd he hs fun hg => ?_
    obtain ⟨hg', hsame⟩ := hkeep ha hg
    exact hsame.trans (hr hg')

/-- The accepted navigations have rising generations up to that of the stage, which the newest of them
has to itself, and each navigation stands where it should. -/
structure Orderly (registry : Screen.Registry) (f : (protocol c).Flight) : Prop where
  loaded : f.state.part.registry = some registry
  sound : f.state.stage.Sound
  rising : (accepted f.courses).Pairwise fun a b => a.generation < b.generation
  bounded : ∀ ch ∈ accepted f.courses, ch.generation ≤ f.state.stage.generation
  newest : ∀ ch ∈ accepted f.courses, ch.generation = f.state.stage.generation →
    f.state.stage.Alone ch.screen
  reached : accepted f.courses ≠ [] →
    ∃ ch ∈ accepted f.courses, ch.generation = f.state.stage.generation
  stands : ∀ course ∈ f.courses, Stands registry f.state.stage course

variable {registry : Screen.Registry} {s : Staged Navigation}

theorem orderly_start (hr : s.part.registry = some registry) (hs : s.stage.Sound) :
    Orderly registry (⟨s, []⟩ : (protocol c).Flight) :=
  { loaded := hr
    sound := hs
    rising := .nil
    bounded := fun _ h => absurd h List.not_mem_nil
    newest := fun _ h => absurd h List.not_mem_nil
    reached := fun h => absurd rfl h
    stands := fun _ h => absurd h List.not_mem_nil }

theorem Orderly.push {courses : List (protocol c).Course} {course : (protocol c).Course}
    {screen : ScreenId} {t : Staged Navigation} (h : Orderly registry ⟨s, courses⟩)
    (hr : t.part.registry = s.part.registry) (hs : t.stage.Sound)
    (hg : t.stage.generation = s.stage.generation + 1) (halone : t.stage.Alone screen)
    (ha : accepted? course.opening = some ⟨screen, t.stage.generation⟩)
    (hstands : Stands registry t.stage course) : Orderly registry ⟨t, courses ++ [course]⟩ := by
  have happ : accepted (courses ++ [course]) = accepted courses ++ [⟨screen, t.stage.generation⟩] := by
    rw [accepted_append, ha]
    rfl
  have hold : ∀ ch ∈ accepted courses, ch.generation < t.stage.generation := fun ch hch => by
    have := h.bounded ch hch
    show ch.generation < _
    rw [hg]
    exact Nat.lt_succ_of_le this
  refine ⟨hr.trans h.loaded, hs, ?_, ?_, ?_, ?_, ?_⟩
  · rw [happ]
    refine List.pairwise_append.2 ⟨h.rising, List.pairwise_singleton .., ?_⟩
    rintro ch hch - (_ | ⟨_, ⟨⟩⟩)
    exact hold ch hch
  · rw [happ]
    intro ch hch
    rcases List.mem_append.1 hch with hch | hch
    · exact (hold ch hch).le
    · obtain rfl := List.mem_singleton.1 hch
      exact le_rfl
  · rw [happ]
    intro ch hch he
    rcases List.mem_append.1 hch with hch | hch
    · exact absurd he (hold ch hch).ne
    · obtain rfl := List.mem_singleton.1 hch
      exact halone
  · rw [happ]
    exact fun _ => ⟨⟨screen, t.stage.generation⟩, by simp, rfl⟩
  · intro other hother
    rcases List.mem_append.1 hother with hother | hother
    · refine (h.stands other hother).of_regions fun ha' he => ?_
      exact absurd he (hold _ (mem_accepted hother ha')).ne
    · obtain rfl := List.mem_singleton.1 hother
      exact hstands

theorem Orderly.begin {courses : List (protocol c).Course} (h : Orderly registry ⟨s, courses⟩)
    (route : Screen.Route) : Orderly registry
      ⟨(go c route s).state, courses ++ [Protocol.Course.ofCall (protocol c) route s]⟩ := by
  have hw := went_go c route s
  have hopen : (Protocol.Course.ofCall (protocol c) route s).opening = go c route s := rfl
  have hstand : (Protocol.Course.ofCall (protocol c) route s).standing = (go c route s).value := rfl
  have hex : (Protocol.Course.ofCall (protocol c) route s).exchanges = [] := rfl
  generalize Protocol.Course.ofCall (protocol c) route s = course at *
  generalize go c route s = made at *
  cases hw with
  | refused notices =>
    have ha : accepted? course.opening = none := by rw [hopen]; rfl
    have happ : accepted (courses ++ [course]) = accepted courses := by
      rw [accepted_append, ha]
      exact List.append_nil _
    refine ⟨h.loaded, h.sound, ?_, ?_, ?_, ?_, ?_⟩
    · rw [happ]; exact h.rising
    · rw [happ]; exact h.bounded
    · rw [happ]; exact h.newest
    · rw [happ]; exact h.reached
    · intro other hother
      rcases List.mem_append.1 hother with hother | hother
      · exact h.stands other hother
      · obtain rfl := List.mem_singleton.1 hother
        exact .refused ha hstand
  | @departed _ screen document t notices hr _ hd hdep =>
    obtain rfl := Option.some.inj (h.loaded.symm.trans hr)
    have ha : accepted? course.opening = some ⟨screen, t.stage.generation⟩ := by rw [hopen]; rfl
    exact h.push hdep.registry (hdep.sound h.sound) hdep.generation hdep.alone ha
      (.waiting ha hd hex hstand)
  | @arrived _ screen t notices hr _ hd hdep =>
    obtain rfl := Option.some.inj (h.loaded.symm.trans hr)
    have ha : accepted? course.opening = some ⟨screen, t.stage.generation⟩ := by rw [hopen]; rfl
    have halone := hdep.alone.replaceRegions screen []
    refine h.push hdep.registry ((hdep.sound h.sound).replaceRegions []) hdep.generation halone ha
      (.plain ha hd hstand fun _ => ?_)
    obtain ⟨f, hf, -⟩ := hdep.alone.surface
    exact (Stage.regions_replaceRegions ..).trans (if_pos ⟨rfl, by rw [hf]; rfl⟩)

theorem Orderly.generation_ne {before after : List (protocol c).Course} {course : (protocol c).Course}
    {ch : ScreenChange} (h : Orderly registry ⟨s, before ++ course :: after⟩)
    (ha : accepted? course.opening = some ch) : ∀ other ∈ before ++ after, ∀ ch',
      accepted? other.opening = some ch' → ch'.generation ≠ ch.generation := by
  intro other hin ch' ha'
  have hrise := h.rising
  rw [accepted_split, ha] at hrise
  obtain ⟨-, hafter, hbefore⟩ := List.pairwise_append.1 hrise
  rcases List.mem_append.1 hin with hin | hin
  · exact (hbefore ch' (mem_accepted hin ha') ch (by simp)).ne
  · exact ((List.pairwise_cons.1 hafter).1 ch' (mem_accepted hin ha')).ne'

theorem mem_course_of_mem {before after : List (protocol c).Course} {course other : (protocol c).Course}
    (h : other ∈ before ++ after) : other ∈ before ++ course :: after :=
  (List.mem_append.1 h).elim (List.mem_append_left _) fun h =>
    List.mem_append_right _ (List.mem_cons_of_mem _ h)

/-- Regions that come for a generation that is over change nothing, and those for the newest are the
regions of its screen from then on. -/
theorem Orderly.resume {before after : List (protocol c).Course} {course : (protocol c).Course}
    {w : Fitting} (h : Orderly registry ⟨s, before ++ course :: after⟩)
    (hw : course.standing = .waiting w) (reply : w.request.Reply) : Orderly registry
      ⟨(settle w reply s).state, before ++ course.next w reply s :: after⟩ := by
  have hmem : course ∈ before ++ course :: after := by simp
  have hopen : (course.next w reply s).opening = course.opening := rfl
  have hstand : (course.next w reply s).standing = .done (some w.screen) :=
    congrArg Progress.done (settle_value w reply s)
  have hex : (course.next w reply s).exchanges = course.exchanges ++ [⟨w, reply⟩] := rfl
  generalize course.next w reply s = course' at *
  have hsame : accepted (before ++ course' :: after) = accepted (before ++ course :: after) := by
    rw [accepted_split, accepted_split, hopen]
  obtain ⟨ch, document, ha, hd, he, rfl⟩ : ∃ ch document, accepted? course.opening = some ch ∧
      document? registry ch.screen = some document ∧ course.exchanges = [] ∧
      w = ⟨document, ch.screen, ch.generation⟩ := by
    cases h.stands course hmem with
    | refused _ hs => rw [hs] at hw; cases hw
    | plain _ _ hs _ => rw [hs] at hw; cases hw
    | waiting ha hd he hs => exact ⟨_, _, ha, hd, he, Progress.waiting.inj (hw.symm.trans hs)⟩
    | settled _ _ _ _ hs _ => rw [hs] at hw; cases hw
  have hnewest : ch.generation = s.stage.generation → s.stage.Alone ch.screen :=
    h.newest ch (mem_accepted hmem ha)
  rw [settle_state, Fitting.resume_state]
  by_cases hcur : s.stage.isCurrent ch.generation ch.screen = true
  · rw [if_pos hcur]
    have hg : ch.generation = s.stage.generation := by
      simp only [Stage.isCurrent, Bool.and_eq_true, decide_eq_true_eq] at hcur
      exact hcur.1.symm
    obtain ⟨f, hf, -⟩ := (hnewest hg).surface
    refine ⟨h.loaded, h.sound.replaceRegions _, hsame ▸ h.rising, hsame ▸ h.bounded, ?_,
      hsame ▸ h.reached, ?_⟩
    · rw [hsame]
      exact fun ch' hch' hg' => (h.newest ch' hch' hg').replaceRegions ..
    · intro other hin
      simp only [List.mem_append, List.mem_cons] at hin
      -- No other navigation has the generation of this one, so none has regions to lose.
      have hkept : ∀ other ∈ before ++ after, Stands registry
          (s.stage.replaceRegions ch.screen (Fitting.regions reply)).1 other := fun other hin =>
        (h.stands other (mem_course_of_mem hin)).of_regions
          fun ha' hg' => absurd (hg'.trans hg.symm) (h.generation_ne ha other hin _ ha')
      rcases hin with hin | rfl | hin
      · exact hkept other (List.mem_append_left _ hin)
      · refine .settled reply (hopen ▸ ha) hd (by rw [hex, he]; rfl) hstand fun _ => ?_
        exact (Stage.regions_replaceRegions ..).trans (if_pos ⟨rfl, by rw [hf]; rfl⟩)
      · exact hkept other (List.mem_append_right _ hin)
  · rw [if_neg hcur]
    have hold : ch.generation ≠ s.stage.generation := fun hg => hcur (by
      simp [Stage.isCurrent, hg, (hnewest hg).active])
    refine ⟨h.loaded, h.sound, hsame ▸ h.rising, hsame ▸ h.bounded, hsame ▸ h.newest,
      hsame ▸ h.reached, ?_⟩
    intro other hin
    simp only [List.mem_append, List.mem_cons] at hin
    rcases hin with hin | rfl | hin
    · exact h.stands other (by simp [hin])
    · exact .settled reply (hopen ▸ ha) hd (by rw [hex, he]; rfl) hstand fun hg => absurd hg hold
    · exact h.stands other (by simp [hin])

theorem orderly_of_run {allowed : Screen.Route → Prop} {answers : (r : Request) → r.Reply → Prop}
    {log : List (Staged Navigation × Staged Navigation)} {f : (protocol c).Flight}
    (hr : s.part.registry = some registry) (hs : s.stage.Sound)
    (h : (protocol c).Run allowed answers ⟨s, []⟩ log f) : Orderly registry f := by
  induction h with
  | start => exact orderly_start hr hs
  | step _ hstep ih =>
    cases hstep with
    | begin route _ => exact ih.begin route
    | resume reply hw _ _ => exact ih.resume hw reply

/-- The newest accepted navigation has the stage: its screen is the only active one and the one that the
location names, and once all have returned the regions of that screen are what this navigation fetched. -/
def NewestPrevails (registry : Screen.Registry) (f : (protocol c).Flight) : Prop :=
  ∃ before course after ch, f.courses = before ++ course :: after ∧
    accepted? course.opening = some ch ∧
    (∀ other ∈ before ++ after, ∀ ch', accepted? other.opening = some ch' →
      ch'.generation < ch.generation) ∧
    (f.state.stage.surfaces.values.filter (·.active)).map (·.id) = [ch.screen] ∧
    f.state.stage.active = some ch.screen ∧
    f.state.stage.fragment = some ch.screen ∧
    (f.Quiet → match document? registry ch.screen with
      | none => f.state.stage.regions ch.screen = []
      | some document => ∃ reply, course.exchanges = [⟨⟨document, ch.screen, ch.generation⟩, reply⟩] ∧
          f.state.stage.regions ch.screen = Fitting.regions reply)

/-- Whatever the order in which fetches end, and whatever they bring. -/
theorem newest_navigation_prevails {log : List (Staged Navigation × Staged Navigation)}
    {f : (protocol c).Flight} (hr : s.part.registry = some registry) (hs : s.stage.Sound)
    (hrun : (protocol c).Run (fun _ => True) (fun _ _ => True) ⟨s, []⟩ log f)
    (hsome : ∃ course ∈ f.courses, (accepted? course.opening).isSome) : NewestPrevails registry f := by
  have h := orderly_of_run hr hs hrun
  obtain ⟨first, hfirst, hch⟩ := hsome
  obtain ⟨ch₀, ha₀⟩ := Option.isSome_iff_exists.1 hch
  obtain ⟨ch, hmem, hg⟩ := h.reached (List.ne_nil_of_mem (mem_accepted hfirst ha₀))
  obtain ⟨course, hcourse, ha⟩ := List.mem_filterMap.1 hmem
  obtain ⟨before, after, hsplit⟩ := List.append_of_mem hcourse
  have halone := h.newest ch hmem hg
  refine ⟨before, course, after, ch, hsplit, ha, ?_, halone.actives h.sound, halone.active,
    halone.fragment, fun hquiet => ?_⟩
  · intro other hin ch' ha'
    obtain ⟨state, courses⟩ := f
    have hsplit : courses = before ++ course :: after := hsplit
    subst hsplit
    have hle := h.bounded ch' (mem_accepted (mem_course_of_mem hin) ha')
    rw [← hg] at hle
    exact Nat.lt_of_le_of_ne hle (h.generation_ne ha other hin ch' ha')
  · have hdone := hquiet course hcourse
    cases h.stands course hcourse with
    | refused hno _ => rw [hno] at ha; cases ha
    | plain ha' hd _ hregions =>
      obtain rfl := Option.some.inj (ha.symm.trans ha')
      rw [hd]
      exact hregions hg
    | waiting _ _ _ hw => rw [hw] at hdone; cases hdone
    | settled reply ha' hd he _ hregions =>
      obtain rfl := Option.some.inj (ha.symm.trans ha')
      rw [hd]
      exact ⟨reply, he, hregions hg⟩

end Orderly

def hallAndYard : Screen.Registry where
  start := ⟨"hall"⟩
  screens := [(⟨"hall"⟩, { hitboxes := some ⟨"hall.json"⟩ }), (⟨"yard"⟩, {})]

def doorDocument : Json.Value :=
  .object [("hitboxes", .array [.object [("id", .string "door")], .null, .object []])]

def doorSource : (r : Request) → r.Reply
  | .document _ => .ok doorDocument
  | .place _ => .ok none
  | .savePlace _ _ => .ok ()
  | .turn => ()

/-- To the hall, the yard and the hall again, and the regions of the first visit come last. -/
def backToTheHall : (protocol {}).Flight :=
  Protocol.Flight.play (P := protocol {}) doorSource
    ⟨⟨{}, { registry := some hallAndYard }⟩, []⟩
    [.begin (.screen ⟨"hall"⟩), .begin (.screen ⟨"yard"⟩), .begin (.screen ⟨"hall"⟩), .resume 2, .resume 0]

theorem newest_navigation_prevails_back_to_the_hall :
    (∃ log, (protocol {}).Run (fun _ => True) (fun _ _ => True)
      ⟨⟨{}, { registry := some hallAndYard }⟩, []⟩ log backToTheHall) ∧
    (∃ course ∈ backToTheHall.courses, (accepted? course.opening).isSome) ∧
    (∀ course ∈ backToTheHall.courses, course.standing.isDone = true) ∧
    NewestPrevails hallAndYard backToTheHall ∧
    (backToTheHall.state.stage.regions ⟨"hall"⟩).map (·.label) = ["door", "hitbox"] := by
  have hrun : ∃ log, (protocol {}).Run (fun _ => True) (fun _ _ => True)
      ⟨⟨{}, { registry := some hallAndYard }⟩, []⟩ log backToTheHall :=
    Protocol.exists_run_play (fun _ => trivial) (fun _ _ => trivial) .start
  have hsome : ∃ course ∈ backToTheHall.courses, (accepted? course.opening).isSome :=
    ⟨_, List.mem_cons_self, rfl⟩
  refine ⟨hrun, hsome, by decide, ?_, by decide⟩
  obtain ⟨log, h⟩ := hrun
  exact newest_navigation_prevails rfl Stage.sound_empty h hsome

end Gamebook.Navigation
