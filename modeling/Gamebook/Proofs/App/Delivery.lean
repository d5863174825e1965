import Gamebook.Proofs.App.Panel

/-! What is shown once every call has returned, if the documents do not change. A transition that the
storybook was told of leaves the active screen with the story that is due on it. A boot tells all it takes,
so that a player booted before anything else shows what is due. A tap or a navigation that pumps while the
crew is still being started takes transitions that no one is told of: then nothing is shown. -/
namespace Gamebook.App

variable {docs : String → Except SourceFault Json.Value} {c : Settings} {catalog : Catalog}
variable {told : Multiset Taken} {log : List (App × App)} {f : (protocol c).Flight} {a : App}

variable (docs c catalog) in
/-- The story that is due on the active screen: its own, if that can be found and read and has scenes. -/
def due? (a : App) : Option Mounted := do
  let screen ← a.stage.active
  let story ← c.navigation.storyOf? screen
  let graph ← storyGraph? docs c.story catalog story
  return ⟨story, screen, graph⟩

structure Bare (a : App) : Prop where
  panels : ∀ f ∈ a.stage.surfaces.values, f.panel = none
  mounted : a.storybook.mounted = none
  unlocked : a.stage.scrollLocked = false

variable (docs c catalog) in
/-- What is due is shown, and nothing is shown if nothing is due. -/
structure ShowsDue (a : App) : Prop where
  shown : ∀ m, due? docs c catalog a = some m → a.storybook.mounted = some m ∧
    ∃ p, a.stage.panel? m.screen = some p ∧ p.story = m.story
  bare : due? docs c catalog a = none → Bare a

theorem bare_of_mounted_eq_none (h : Shown c.story a.stories) (hmounted : a.storybook.mounted = none) :
    Bare a where
  panels := by
    intro f hf
    have hnone : a.stage.panel? f.id = none := h.panel?_of_mounted_eq_none hmounted f.id
    have hsurface : a.stage.surface? f.id = some f := (Stage.mem_surfaces_iff h.sound f).1 hf
    rw [Stage.panel?, hsurface] at hnone
    exact hnone
  mounted := hmounted
  unlocked := h.scrollLocked_of_mounted_eq_none hmounted

theorem showsDue_of_mounted (h : Shown c.story a.stories)
    (hmounted : a.storybook.mounted = due? docs c catalog a) : ShowsDue docs c catalog a where
  shown := by
    intro m hm
    rw [hm] at hmounted
    obtain ⟨p, hp⟩ := Option.isSome_iff_exists.1 (h.mounted hmounted)
    obtain ⟨m', hm', -, htells⟩ := h.tells hp
    obtain rfl := Option.some.inj (hmounted.symm.trans hm')
    exact ⟨hmounted, p, hp, htells.story⟩
  bare hnone := bare_of_mounted_eq_none h (hmounted.trans hnone)

theorem due?_of_settled (h : Settled (Fixed docs) c catalog a.stories) {screen : ScreenId}
    (hactive : a.stage.active = some screen) : a.storybook.mounted = due? docs c catalog a := by
  have hsettled := h screen hactive
  simp only [due?, hactive, Option.bind_eq_bind, Option.bind_some]
  cases hstory : c.navigation.storyOf? screen with
  | none =>
    rw [hstory] at hsettled
    exact hsettled
  | some story =>
    rw [hstory] at hsettled
    obtain ⟨graph, hends, hmounted⟩ := hsettled
    rw [hends.eq_storyGraph?] at hmounted
    refine hmounted.trans ?_
    rw [Option.bind_some]
    cases storyGraph? docs c.story catalog story <;> rfl

section Landed

theorem showsDue_of_told (h : Kept (Fixed docs) c catalog told [] 0 0 a)
    (htold : ∀ ch, a.stage.current? = some ch → ⟨ch, true⟩ ∈ told) : ShowsDue docs c catalog a := by
  refine showsDue_of_mounted h.tells.shown ?_
  cases hactive : a.stage.active with
  | none =>
    have hmounted : a.storybook.mounted = none :=
      h.tells.idle ((Stage.current?_eq_none_iff a.stage).2 hactive)
    simp only [hmounted, due?, hactive]
    rfl
  | some screen =>
    have hcurrent : a.stage.current? = some ⟨screen, a.stage.generation⟩ := by
      rw [Stage.current?, hactive]
      rfl
    rcases h.tells.settled _ hcurrent (htold _ hcurrent) with ⟨w, hw, -⟩ | hsettled
    · exact absurd hw (Multiset.notMem_zero w)
    · exact due?_of_settled hsettled hactive

theorem told_or_untold {answers : (r : Request) → r.Reply → Prop}
    (h : Kept answers c catalog told [] 0 0 a) {ch : ScreenChange} (hcurrent : a.stage.current? = some ch) :
    ⟨ch, true⟩ ∈ told ∨ ⟨ch, false⟩ ∈ told := by
  have hin := h.ledger.current ch hcurrent
  simp only [entries, Multiset.map_zero, Multiset.coe_nil, zero_add, Multiset.mem_map] at hin
  obtain ⟨⟨ch', flag⟩, hin, rfl⟩ := hin
  cases flag
  · exact .inr hin
  · exact .inl hin

/-- When every call has returned, no fetch and no mount is in flight, and the channel is empty. -/
theorem kept_of_quiet {answers : (r : Request) → r.Reply → Prop}
    (h : (protocol c).Run Call.Plays answers ⟨ofCatalog catalog, []⟩ log f) (hquiet : f.Quiet) :
    Kept answers c catalog ↑(history log) [] 0 0 f.state := by
  obtain ⟨⟨queue, haloft⟩, -⟩ := aloft_of_run h
  rw [hquiet.pending_eq_zero] at haloft
  obtain ⟨-, rfl, -⟩ := haloft.seated.free_of_booting (haloft.seated.booting_eq_false rfl)
  exact haloft.kept

end Landed

/-- How a boot stands: it waits, or it has its answer, and has started the crew if that is a success. -/
def BootStands (a : App) (p : Progress Waiting Answer) : Prop :=
  (∃ w, p = .waiting (.booting w)) ∨ ∃ result, p = .done (.loaded result) ∧ (result = .ok () → a.hears = true)

theorem BootStands.of_hears {b : App} {p : Progress Waiting Answer} (h : BootStands a p)
    (hhears : a.hears = true → b.hears = true) : BootStands b p := by
  rcases h with hwaiting | ⟨result, hp, hok⟩
  · exact .inl hwaiting
  · exact .inr ⟨result, hp, fun h => hhears (hok h)⟩

theorem Carried.stands {answers : (r : Request) → r.Reply → Prop} {others : Multiset Waiting}
    {made : Made App (Progress Booting (Except LoadFault Unit))}
    (h : Carried answers c catalog told others a made) :
    BootStands made.state (made.value.map .booting .loaded) := by
  cases hv : made.value with
  | waiting w => exact .inl ⟨w, rfl⟩
  | done result => exact .inr ⟨result, rfl, fun hok => h.loaded (by rw [hv, hok])⟩

/-- What boots keep as long as there are no other calls: whatever they took was told. -/
structure OnlyBoots (answers : (r : Request) → r.Reply → Prop) (c : Settings) (catalog : Catalog)
    (log : List (App × App)) (a : App) (standings : Multiset (Progress Waiting Answer)) : Prop where
  aloft : ∃ queue, Aloft answers c catalog ↑(history log) queue (standings.bind Progress.pending) a
  told : ∀ e ∈ history log, e.told = true
  stands : ∀ p ∈ standings, BootStands a p

theorem Carried.onlyBoots {answers : (r : Request) → r.Reply → Prop}
    {others : Multiset (Progress Waiting Answer)} {made : Made App (Progress Booting (Except LoadFault Unit))}
    (h : Carried answers c catalog ↑(history log) (others.bind Progress.pending) a made)
    (htold : ∀ e ∈ history log, e.told = true) (hothers : ∀ p ∈ others, BootStands a p) :
    OnlyBoots answers c catalog ((a, made.state) :: log) made.state
      (made.value.map .booting .loaded ::ₘ others) where
  aloft := by
    rw [Multiset.cons_bind]
    exact h.advanced.aloft
  told e he := (List.mem_append.1 he).elim (h.heard e) (htold e)
  stands p hp := by
    rcases Multiset.mem_cons.1 hp with rfl | hp
    · exact h.stands
    · exact (hothers p hp).of_hears h.hears

theorem onlyBoots_of_run {answers : (r : Request) → r.Reply → Prop}
    (h : (protocol c).Run (fun call => ∃ link, call = .boot link) answers ⟨ofCatalog catalog, []⟩ log f) :
    OnlyBoots answers c catalog log f.state f.standings := by
  refine Protocol.Run.standing_induction (P := protocol c) (motive := OnlyBoots answers c catalog) ?_ ?_ ?_ h
  · exact ⟨⟨[], aloft_start⟩, fun e he => absurd he List.not_mem_nil,
      fun p hp => absurd hp (Multiset.notMem_zero p)⟩
  · rintro log a others _ ⟨link, rfl⟩ ⟨⟨queue, haloft⟩, htold, hothers⟩
    exact (carried_boot haloft link).onlyBoots htold hothers
  · rintro log a others w reply hready hreply ⟨⟨queue, haloft⟩, htold, hstands⟩
    obtain ⟨w, hw⟩ | ⟨result, hw, -⟩ := hstands _ (Multiset.mem_cons_self ..)
    · obtain rfl := Progress.waiting.inj hw
      rw [Multiset.cons_bind] at haloft
      exact (carried_resume haloft (turn_of_ready hready) hreply).onlyBoots htold
        fun p hp => hstands p (Multiset.mem_cons_of_mem hp)
    · cases hw

/-- A boot that succeeded before any other call has started the crew. -/
theorem hears_of_loaded {answers : (r : Request) → r.Reply → Prop}
    (h : (protocol c).Run (fun call => ∃ link, call = .boot link) answers ⟨ofCatalog catalog, []⟩ log f)
    (hloaded : ∃ course ∈ f.courses, course.standing = .done (.loaded (.ok ()))) : f.state.hears = true := by
  obtain ⟨course, hcourse, hstanding⟩ := hloaded
  obtain ⟨w, hw⟩ | ⟨result, hw, hok⟩ :=
    (onlyBoots_of_run h).stands _ (Protocol.Flight.mem_standings.2 ⟨course, hcourse, rfl⟩)
  · rw [hstanding] at hw
    cases hw
  · rw [hstanding] at hw
    cases hw
    exact hok rfl

theorem due_story_is_shown_after_boot {log₁ log₂ : List (App × App)} {f₁ f₂ : (protocol c).Flight}
    (hboot : (protocol c).Run (fun call => ∃ link, call = .boot link) (Fixed docs)
      ⟨ofCatalog catalog, []⟩ log₁ f₁)
    (hloaded : ∃ course ∈ f₁.courses, course.standing = .done (.loaded (.ok ())))
    (hplay : (protocol c).Run Call.Plays (Fixed docs) f₁ log₂ f₂) (hquiet : f₂.Quiet) :
    ShowsDue docs c catalog f₂.state := by
  have hrun := (hboot.mono (fun call hcall => by obtain ⟨link, rfl⟩ := hcall; trivial)).trans hplay
  have hkept := kept_of_quiet hrun hquiet
  have hhears := hplay.forall_log (Q := fun a => a.hears = true) (hears_of_loaded hboot hloaded)
    fun e he => (aloft_of_run hrun).2 e (List.mem_append_left _ he)
  have htold : ∀ e ∈ history (log₂ ++ log₁), e.told = true := by
    intro e he
    rw [history, List.flatMap_append] at he
    rcases List.mem_append.1 he with he | he
    · obtain ⟨step, hstep, he⟩ := List.mem_flatMap.1 he
      exact (told_of_mem_received he).trans (hhears.2 step hstep)
    · exact (onlyBoots_of_run hboot).told e he
  refine showsDue_of_told hkept fun ch hcurrent => ?_
  refine (told_or_untold hkept hcurrent).resolve_right fun huntold => ?_
  cases htold _ (Multiset.mem_coe.1 huntold)

def firstScene : (protocol {}).Flight :=
  Protocol.Flight.play (P := protocol {}) (sourceOf taleDocs) ⟨ofCatalog taleCatalog, []⟩
    [.begin (.boot none), .resume 0, .resume 0, .resume 0]

/-- To the story, to the yard and to the story again; the first two mounts take their last steps last. -/
def backToTheStory : (protocol {}).Flight :=
  Protocol.Flight.play (P := protocol {}) (sourceOf taleDocs) firstScene
    [.begin (.go "story_a"), .begin (.go "yard"), .begin (.go "story_a"), .resume 3, .resume 1]

def returnedOk : Progress Waiting Answer → Bool
  | .done (.loaded (.ok ())) => true
  | _ => false

theorem eq_of_returnedOk {p : Progress Waiting Answer} (h : returnedOk p = true) :
    p = .done (.loaded (.ok ())) := by
  unfold returnedOk at h
  split at h
  · rfl
  · cases h

theorem due_story_is_shown_after_boot_back_to_the_story :
    (∃ log, (protocol {}).Run (fun call => ∃ link, call = .boot link) (Fixed taleDocs)
      ⟨ofCatalog taleCatalog, []⟩ log firstScene) ∧
    (∃ course ∈ firstScene.courses, course.standing = .done (.loaded (.ok ()))) ∧
    (∃ log, (protocol {}).Run Call.Plays (Fixed taleDocs) firstScene log backToTheStory) ∧
    backToTheStory.Quiet ∧
    ShowsDue taleDocs {} taleCatalog backToTheStory.state ∧
    (due? taleDocs {} taleCatalog backToTheStory.state).map (·.story) = some ⟨"a"⟩ := by
  have hboot : ∃ log, (protocol {}).Run (fun call => ∃ link, call = .boot link) (Fixed taleDocs)
      ⟨ofCatalog taleCatalog, []⟩ log firstScene :=
    Protocol.exists_run_play (fixed_sourceOf taleDocs) (by simp) .start
  have hloaded : ∃ course ∈ firstScene.courses, course.standing = .done (.loaded (.ok ())) := by
    have hok : firstScene.courses.any (fun course => returnedOk course.standing) = true := by decide +kernel
    obtain ⟨course, hcourse, hstanding⟩ := List.any_eq_true.1 hok
    exact ⟨course, hcourse, eq_of_returnedOk hstanding⟩
  have hplay : ∃ log, (protocol {}).Run Call.Plays (Fixed taleDocs) firstScene log backToTheStory :=
    Protocol.exists_run_play (fixed_sourceOf taleDocs) (by simp [Call.Plays]) .start
  have hquiet : backToTheStory.Quiet := by
    unfold Protocol.Flight.Quiet
    decide +kernel
  refine ⟨hboot, hloaded, hplay, hquiet, ?_, by decide +kernel⟩
  obtain ⟨log₁, hboot⟩ := hboot
  obtain ⟨log₂, hplay⟩ := hplay
  exact due_story_is_shown_after_boot hboot hloaded hplay hquiet

/-- The storybook was told of a navigation. -/
def Delivered (log : List (App × App)) (ch : ScreenChange) : Prop := ⟨ch, true⟩ ∈ history log

/-- A navigation was taken from the channel before the stories were started. -/
def Lost (log : List (App × App)) (ch : ScreenChange) : Prop := ⟨ch, false⟩ ∈ history log

theorem not_lost_of_delivered (h : Kept (Fixed docs) c catalog ↑(history log) [] 0 0 a) {ch : ScreenChange}
    (hdelivered : Delivered log ch) : ¬ Lost log ch := by
  intro hlost
  cases told_unique _ _ _ h.ledger (Multiset.mem_coe.2 hdelivered) (Multiset.mem_coe.2 hlost) rfl

theorem showsDue_of_delivered (h : Kept (Fixed docs) c catalog ↑(history log) [] 0 0 a) {ch : ScreenChange}
    (hcurrent : a.stage.current? = some ch) (hdelivered : Delivered log ch) : ShowsDue docs c catalog a := by
  refine showsDue_of_told h fun ch' hch' => ?_
  obtain rfl := Option.some.inj (hcurrent.symm.trans hch')
  exact hdelivered

theorem delivered_unless_lost (h : (protocol c).Run Call.Plays (Fixed docs) ⟨ofCatalog catalog, []⟩ log f)
    (hquiet : f.Quiet) {ch : ScreenChange} (hcurrent : f.state.stage.current? = some ch) :
    (Delivered log ch ↔ ¬ Lost log ch) ∧ (¬ Lost log ch → ShowsDue docs c catalog f.state) ∧
      (Lost log ch → Bare f.state) := by
  have hkept := kept_of_quiet h hquiet
  have hdelivered : ¬ Lost log ch → Delivered log ch := (told_or_untold hkept hcurrent).resolve_right
  refine ⟨⟨not_lost_of_delivered hkept, hdelivered⟩, fun hlost => ?_, fun hlost => ?_⟩
  · exact showsDue_of_delivered hkept hcurrent (hdelivered hlost)
  · exact bare_of_mounted_eq_none hkept.tells.shown (hkept.tells.lost ch hcurrent hlost)

/-- One story on the first screen, in a pack that the catalog lists. -/
def packDocs (path : String) : Except SourceFault Json.Value :=
  if path = "sec/screen_registry.json" then
    .ok (.object [("start_screen", .string "story_a"), ("screens", .object [("story_a", .object [])])])
  else if path = "content/catalog/catalog.json" then
    .ok (.object [("packs", .array [.object [("packId", .string "p"), ("root", .string "r"),
      ("stories", .array [.object [("id", .string "a"), ("storyJson", .string "a.json")]])]])])
  else if path = "r/a.json" then
    .ok (.object [("start", .string "S1"),
      ("scenes", .object [("S1", .object [("text", .string "Hello")])])])
  else .error (.notFound path)

def packCatalog : Catalog := .packs "content/catalog/catalog.json" none

/-- The reader taps while the catalog is fetched, where there is nothing to tap on. -/
def tapWhileBooting : (protocol {}).Flight :=
  Protocol.Flight.play (P := protocol {}) (sourceOf packDocs) ⟨ofCatalog packCatalog, []⟩
    [.begin (.boot none), .resume 0, .begin (.tap ⟨50, 50⟩), .resume 0]

theorem run_tapWhileBooting : ∃ log, (protocol {}).Run Call.Plays (Fixed packDocs)
    ⟨ofCatalog packCatalog, []⟩ log tapWhileBooting :=
  Protocol.exists_run_play (fixed_sourceOf packDocs) (by simp [Call.Plays]) .start

/-- The boot succeeds, every call has returned, and the story that is due is not shown. -/
theorem transition_lost_to_a_tap :
    ∃ log, (protocol {}).Run Call.Plays (Fixed packDocs) ⟨ofCatalog packCatalog, []⟩ log tapWhileBooting ∧
      tapWhileBooting.courses.map (·.call) = [.boot none, .tap ⟨50, 50⟩] ∧ tapWhileBooting.Quiet ∧
      (∃ course ∈ tapWhileBooting.courses, course.standing = .done (.loaded (.ok ()))) ∧
      tapWhileBooting.state.stage.current? = some ⟨⟨"story_a"⟩, 1⟩ ∧
      (due? packDocs {} packCatalog tapWhileBooting.state).isSome = true ∧
      tapWhileBooting.state.storybook.mounted = none ∧
      Lost log ⟨⟨"story_a"⟩, 1⟩ ∧ ¬ Delivered log ⟨⟨"story_a"⟩, 1⟩ := by
  obtain ⟨log, hrun⟩ := run_tapWhileBooting
  have hquiet : tapWhileBooting.Quiet := by
    unfold Protocol.Flight.Quiet
    decide +kernel
  have hok : tapWhileBooting.courses.any (fun course => returnedOk course.standing) = true := by
    decide +kernel
  obtain ⟨course, hcourse, hstanding⟩ := List.any_eq_true.1 hok
  have hcurrent : tapWhileBooting.state.stage.current? = some ⟨⟨"story_a"⟩, 1⟩ := by decide +kernel
  have hdue : (due? packDocs {} packCatalog tapWhileBooting.state).isSome = true := by decide +kernel
  have hmounted : tapWhileBooting.state.storybook.mounted = none := by decide +kernel
  have hkept := kept_of_quiet hrun hquiet
  have hundelivered : ¬ Delivered log ⟨⟨"story_a"⟩, 1⟩ := by
    intro hdelivered
    obtain ⟨m, hm⟩ := Option.isSome_iff_exists.1 hdue
    have hshown := ((showsDue_of_delivered hkept hcurrent hdelivered).shown m hm).1
    rw [hmounted] at hshown
    cases hshown
  refine ⟨log, hrun, ?_, hquiet, ⟨course, hcourse, eq_of_returnedOk hstanding⟩, hcurrent, hdue, hmounted,
    (told_or_untold hkept hcurrent).resolve_left hundelivered, hundelivered⟩
  exact Protocol.Flight.calls_play ..

/-- The same, and then the reader goes to the screen again. -/
def goAfterTap : (protocol {}).Flight :=
  Protocol.Flight.play (P := protocol {}) (sourceOf packDocs) tapWhileBooting
    [.begin (.go "story_a"), .resume 2, .resume 2]

theorem delivered_unless_lost_going_after_a_tap :
    ∃ log, (protocol {}).Run Call.Plays (Fixed packDocs) ⟨ofCatalog packCatalog, []⟩ log goAfterTap ∧
      goAfterTap.Quiet ∧ goAfterTap.state.stage.current? = some ⟨⟨"story_a"⟩, 2⟩ ∧
      Delivered log ⟨⟨"story_a"⟩, 2⟩ ∧ ShowsDue packDocs {} packCatalog goAfterTap.state ∧
      (due? packDocs {} packCatalog goAfterTap.state).map (·.story) = some ⟨"a"⟩ := by
  obtain ⟨log₁, hrun₁⟩ := run_tapWhileBooting
  obtain ⟨log, hrun⟩ : ∃ log, (protocol {}).Run Call.Plays (Fixed packDocs)
      ⟨ofCatalog packCatalog, []⟩ log goAfterTap :=
    Protocol.exists_run_play (fixed_sourceOf packDocs) (by simp [Call.Plays]) hrun₁
  have hquiet : goAfterTap.Quiet := by
    unfold Protocol.Flight.Quiet
    decide +kernel
  have hcurrent : goAfterTap.state.stage.current? = some ⟨⟨"story_a"⟩, 2⟩ := by decide +kernel
  have hmounted : goAfterTap.state.storybook.mounted ≠ none := by decide +kernel
  obtain ⟨hiff, hdue, hbare⟩ := delivered_unless_lost hrun hquiet hcurrent
  have hkept : ¬ Lost log ⟨⟨"story_a"⟩, 2⟩ := fun hlost => hmounted (hbare hlost).mounted
  exact ⟨log, hrun, hquiet, hcurrent, hiff.2 hkept, hdue hkept, by decide +kernel⟩

end Gamebook.App
