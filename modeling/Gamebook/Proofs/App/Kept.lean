import Gamebook.Proofs.App.Ledger
import Mathlib.Tactic.Abel

/-! What every part of a step of a player keeps. Navigations open entries of the ledger, the end of a
fetch moves an entry to the channel, and pumping takes it from there; only the steps of mounts and the
choices of a reader change what is shown. -/
namespace Gamebook.App

variable (answers : (r : Request) → r.Reply → Prop) (c : Settings) (first : Catalog)

/-- All navigations accepted: by fetches in flight, by the channel, and by what was taken from it. -/
def entries (fits : Multiset Fitting) (queue : List ScreenChange) (told : Multiset Taken) :
    Multiset ScreenChange :=
  fits.map Fitting.change + ↑queue + told.map Taken.change

section Entries

variable (fits : Multiset Fitting) (queue : List ScreenChange) (told : Multiset Taken)

theorem entries_fetch (w : Fitting) :
    entries ({w} + fits) queue told = w.change ::ₘ entries fits queue told := by
  simp only [entries, Multiset.map_add, Multiset.map_singleton, ← Multiset.singleton_add]
  abel

theorem entries_send (ch : ScreenChange) :
    entries fits (queue ++ [ch]) told = ch ::ₘ entries fits queue told := by
  simp only [entries, ← Multiset.coe_add, Multiset.coe_singleton, ← Multiset.singleton_add]
  abel

theorem entries_take {news : Multiset Taken} (h : news.map Taken.change = ↑queue) :
    entries fits [] (news + told) = entries fits queue told := by
  simp only [entries, Multiset.map_add, h, Multiset.coe_nil]
  abel

theorem told_unique {s : Stage} (h : Ledger (entries fits queue told) s) {e e' : Taken} (he : e ∈ told)
    (he' : e' ∈ told) (hch : e.change = e'.change) : e = e' := by
  have hnodup := h.nodup
  rw [entries, Multiset.map_add, Multiset.nodup_add, Multiset.map_map _ Taken.change] at hnodup
  refine Multiset.inj_on_of_nodup_map hnodup.2.1 e he e' he' ?_
  rw [Function.comp_apply, hch]
  rfl

end Entries

structure Kept (told : Multiset Taken) (queue : List ScreenChange) (fits : Multiset Fitting)
    (mounts : Multiset Mounting) (a : App) : Prop where
  crew : ∃ status, a.roster = crewOf status a.hears
  channel : a.navigation.transitions.Holds a.taken queue
  ledger : Ledger (entries fits queue told) a.stage
  tells : Tells answers c first told mounts a.stories
  deaf : a.hears = false → (∀ e ∈ told, e.told = false) ∧ a.storybook.mounted = none

namespace Kept

variable {answers c first} {told : Multiset Taken} {queue : List ScreenChange}
variable {fits : Multiset Fitting} {mounts : Multiset Mounting} {a b : App}

theorem start : Kept answers c first 0 [] 0 0 (ofCatalog first) where
  crew := ⟨.pending, rfl⟩
  channel := Transitions.holds_empty
  ledger := by
    refine ⟨Multiset.nodup_zero, fun ch h => absurd h (Multiset.notMem_zero ch), fun ch h => ?_⟩
    cases h
  tells := by
    have hshown : Shown c.story (ofCatalog first).stories :=
      .of_bare Stage.sound_empty (fun _ => rfl) rfl rfl
    refine ⟨hshown, sourced_first .., fun w h => absurd h (Multiset.notMem_zero w), ?_, ?_, ?_, fun _ => rfl⟩
    all_goals
      intro ch h
      cases h
  deaf _ := ⟨fun e h => absurd h (Multiset.notMem_zero e), rfl⟩

theorem of_same (h : Kept answers c first told queue fits mounts a) (hroster : b.roster = a.roster)
    (htransitions : b.navigation.transitions = a.navigation.transitions) (htaken : b.taken = a.taken)
    (hgeneration : b.stage.generation = a.stage.generation) (hactive : b.stage.active = a.stage.active)
    (hmounted : b.storybook.mounted = a.storybook.mounted) (hshown : Shown c.story b.stories)
    (hsourced : Sourced answers c.story first b.storybook) :
    Kept answers c first told queue fits mounts b := by
  have hhears : b.hears = a.hears := by rw [hears, hears, hroster]
  refine ⟨?_, ?_, h.ledger.of_same hgeneration hactive,
    h.tells.of_same hshown hsourced hgeneration hactive hmounted, ?_⟩
  · rw [hroster, hhears]
    exact h.crew
  · rw [htransitions, htaken]
    exact h.channel
  · rw [hhears, hmounted]
    exact h.deaf

theorem boots (h : Kept answers c first told queue fits mounts a) (booted booting : Bool) :
    Kept answers c first told queue fits mounts { a with booted, booting } :=
  ⟨h.crew, h.channel, h.ledger, h.tells, h.deaf⟩

theorem went (h : Kept answers c first told queue fits mounts a)
    (hroom : queue.length < Transitions.capacity)
    {made : Made (Staged Navigation) (Progress Fitting (Option ScreenId))}
    (hmade : Navigation.Went c.navigation ⟨a.stage, a.navigation⟩ made) :
    ∃ sent : List ScreenChange, sent.length ≤ 1 ∧ (made.value.pending ≠ 0 → sent = []) ∧
      Kept answers c first told (queue ++ sent) (made.value.pending + fits) mounts
        { a with stage := made.state.stage, navigation := made.state.part } := by
  -- the stage after a departure, and after the regions of the screen were emptied
  have hdeparted : ∀ {screen t} (_ : Navigation.Departed c.navigation screen ⟨a.stage, a.navigation⟩ t)
      (stage : Stage), stage.generation = t.stage.generation → stage.active = t.stage.active →
      (∀ j, stage.panel? j = t.stage.panel? j) → stage.scrollLocked = t.stage.scrollLocked →
      stage.Sound →
      Ledger (⟨screen, t.stage.generation⟩ ::ₘ entries fits queue told) stage ∧
        Tells answers c first told mounts ⟨stage, a.storybook⟩ := by
    intro screen t hd stage hgeneration hactive hpanel hlock hsound
    have hledger := h.ledger.depart (t := stage) (hgeneration.trans hd.generation)
      (hactive.trans hd.active)
    rw [hgeneration] at hledger
    have hshown : Shown c.story ⟨stage, a.storybook⟩ :=
      h.tells.shown.of_same hsound (fun j => (hpanel j).trans (hd.panel j)) (hlock.trans hd.locked) rfl rfl
    have hcurrent : stage.current? = some ⟨screen, t.stage.generation⟩ := by
      rw [Stage.current?, hactive, hd.active, hgeneration]
      rfl
    refine ⟨hledger, h.tells.depart hshown h.tells.sourced hcurrent fun e he hch => ?_⟩
    have hin : e.change ∈ entries fits queue told :=
      Multiset.mem_add.2 (.inr (Multiset.mem_map_of_mem _ he))
    have hle := h.ledger.bounded _ hin
    rw [hch, hd.generation] at hle
    exact absurd hle (Nat.not_succ_le_self _)
  cases hmade with
  | refused notices =>
    refine ⟨[], Nat.zero_le _, fun _ => rfl, ?_⟩
    rw [List.append_nil]
    simpa using h
  | @departed registry screen document t notices _ _ _ hd =>
    obtain ⟨hledger, htells⟩ := hdeparted hd t.stage rfl rfl (fun _ => rfl) rfl (hd.sound h.tells.shown.sound)
    refine ⟨[], Nat.zero_le _, fun _ => rfl, h.crew, ?_, ?_, htells, h.deaf⟩
    · rw [hd.transitions, List.append_nil]
      exact h.channel
    · show Ledger (entries ({⟨document, screen, t.stage.generation⟩} + fits) (queue ++ []) told) _
      rw [List.append_nil, entries_fetch]
      exact hledger
  | @arrived registry screen t notices _ _ _ hd =>
    obtain ⟨hledger, htells⟩ := hdeparted hd (t.stage.replaceRegions screen []).1 rfl rfl
      (Stage.panel?_replaceRegions _ _ · _) rfl ((hd.sound h.tells.shown.sound).replaceRegions [])
    refine ⟨[⟨screen, t.stage.generation⟩], Nat.le_refl _, fun hne => absurd rfl hne, h.crew, ?_, ?_,
      htells, h.deaf⟩
    · show ((t.part.transitions.send _).Holds _ _)
      rw [hd.transitions]
      exact h.channel.send _ hroom
    · show Ledger (entries (0 + fits) (queue ++ [⟨screen, t.stage.generation⟩]) told) _
      rw [zero_add, entries_send]
      exact hledger

theorem settle {w : Fitting} (h : Kept answers c first told queue ({w} + fits) mounts a)
    (hroom : queue.length < Transitions.capacity) (reply : w.request.Reply) :
    Kept answers c first told (queue ++ [w.change]) fits mounts
      (navigating (Navigation.settle w reply) a).state := by
  have hstate : (navigating (Navigation.settle w reply) a).state =
      { a with
        stage := (w.resume reply a.stage).state
        navigation := { a.navigation with transitions := a.navigation.transitions.send w.change } } := by
    show { a with
      stage := (Navigation.settle w reply ⟨a.stage, a.navigation⟩).state.stage
      navigation := (Navigation.settle w reply ⟨a.stage, a.navigation⟩).state.part } = _
    rw [Navigation.settle_state]
    rfl
  have hstage : (w.resume reply a.stage).state.generation = a.stage.generation ∧
      (w.resume reply a.stage).state.active = a.stage.active ∧
      Shown c.story ⟨(w.resume reply a.stage).state, a.storybook⟩ := by
    rw [Fitting.resume_state]
    split
    · exact ⟨rfl, rfl, h.tells.shown.of_same (h.tells.shown.sound.replaceRegions _)
        (Stage.panel?_replaceRegions _ _ · _) rfl rfl rfl⟩
    · exact ⟨rfl, rfl, h.tells.shown⟩
  obtain ⟨hgeneration, hactive, hshown⟩ := hstage
  rw [hstate]
  refine ⟨h.crew, h.channel.send _ hroom, ?_, ?_, h.deaf⟩
  · have hledger := h.ledger.of_same hgeneration hactive
    rw [entries_fetch] at hledger
    rw [entries_send]
    exact hledger
  · exact h.tells.of_same hshown h.tells.sourced hgeneration hactive rfl

/-- The queue is taken before any story can be told of it. -/
theorem take (h : Kept answers c first told queue fits mounts a) (hdeaf : a.hears = false) :
    Kept answers c first (↑(queue.map (⟨·, false⟩ : ScreenChange → Taken)) + told) [] fits mounts
      { a with taken := a.taken + queue.length } := by
  obtain ⟨hfalse, hmounted⟩ := h.deaf hdeaf
  have hback : (↑(queue.map (⟨·, false⟩ : ScreenChange → Taken)) : Multiset Taken).map Taken.change =
      ↑queue := by
    rw [Multiset.map_coe, List.map_map]
    exact congrArg _ (List.map_id _)
  have hnew : ∀ e ∈ ↑(queue.map (⟨·, false⟩ : ScreenChange → Taken)) + told,
      e ∈ told ∨ e.told = false := by
    intro e he
    rcases Multiset.mem_add.1 he with he | he
    · obtain ⟨ch, -, rfl⟩ := List.mem_map.1 (Multiset.mem_coe.1 he)
      exact .inr rfl
    · exact .inl he
  refine ⟨h.crew, h.channel.drain, ?_, ?_, fun _ => ⟨fun e he => ?_, hmounted⟩⟩
  · rw [entries_take _ _ _ hback]
    exact h.ledger
  · refine h.tells.untold hmounted (fun e he => Multiset.mem_add.2 (.inr he)) fun e he htrue => ?_
    refine (hnew e he).resolve_right fun hf => ?_
    rw [htrue] at hf
    cases hf
  · exact (hnew e he).elim (hfalse e) id

/-- The storybook is told of the one transition in the queue. -/
theorem tell {ch : ScreenChange} (h : Kept answers c first told [ch] fits mounts a)
    (hhears : a.hears = true) :
    Kept answers c first ({⟨ch, true⟩} + told) [] fits
      ((reading (Storybook.enter c.navigation ch) a).value.pending + mounts)
      (reading (Storybook.enter c.navigation ch) { a with taken := a.taken + 1 }).state := by
  have ht : Tended answers c first ch a.stories (Storybook.enter c.navigation ch a.stories).state
      (Storybook.enter c.navigation ch a.stories).value.pending :=
    tended_enter ch h.tells.shown h.tells.sourced
  have hledger : Ledger (entries fits [] ({⟨ch, true⟩} + told)) a.stage := by
    rw [entries_take fits [ch] told rfl]
    exact h.ledger
  have htold : (⟨ch, true⟩ : Taken) ∈ {⟨ch, true⟩} + told :=
    Multiset.mem_add.2 (.inl (Multiset.mem_singleton_self _))
  refine ⟨h.crew, h.channel.after, hledger.of_same ht.generation ht.active, ?_, fun hdeaf => ?_⟩
  · refine h.tells.tended ht (fun e he => Multiset.mem_add.2 (.inr he)) (fun e he => ?_) htold
      (fun hlost => ?_) (fun w hw => .inl hw) fun w hw => hw
    · rcases Multiset.mem_add.1 he with he | he
      · rw [Multiset.mem_singleton.1 he]
        exact .inr rfl
      · exact .inl he
    · cases told_unique _ _ _ hledger htold hlost rfl
  · have hdeaf : a.hears = false := hdeaf
    rw [hhears] at hdeaf
    cases hdeaf

theorem resume {w : Mounting} (h : Kept answers c first told queue fits ({w} + mounts) a)
    {reply : w.request.Reply} (hreply : answers w.request reply) :
    Kept answers c first told queue fits
      ((reading (w.resume c.story reply) a).value.pending + mounts)
      (reading (w.resume c.story reply) a).state := by
  obtain ⟨htold, hapt⟩ := h.tells.apt w (Multiset.mem_add.2 (.inl (Multiset.mem_singleton_self w)))
  have hfocused : a.stories.stage.isCurrent w.visit.generation w.visit.screen = true →
      Focused w.visit.screen a.stories := fun hcur =>
    h.tells.focused w.visit.change ((Stage.current?_eq_some_iff ..).2 hcur) htold
  have ht := tended_resume h.tells.shown h.tells.sourced hapt hfocused hreply
  refine ⟨h.crew, h.channel, h.ledger.of_same ht.generation ht.active, ?_, fun hdeaf => ?_⟩
  · refine h.tells.tended ht (fun e he => he) (fun e he => .inl he) htold (fun hlost => ?_)
      (fun w' hw' => ?_) fun w' hw' => Multiset.mem_add.2 (.inr hw')
    · cases told_unique _ _ _ h.ledger htold hlost rfl
    · rcases Multiset.mem_add.1 hw' with hw' | hw'
      · rw [Multiset.mem_singleton.1 hw']
        exact .inr rfl
      · exact .inl hw'
  · -- a player that tells no stories has none in flight
    have hdeaf : a.hears = false := hdeaf
    cases (h.deaf hdeaf).1 _ htold

end Kept
end Gamebook.App
