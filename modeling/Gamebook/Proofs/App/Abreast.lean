import Gamebook.Proofs.App.Undisturbed

/-! Two players on the same way, of which one delivers each transition and the other one leaves them in the
channel. The one mounts and unmounts stories in between; but where it stands, and what any screen is going to
show, is not changed by that (`Abreast.follow`). So the newest transition alone, told late, brings the other
one to look alike: `Abreast.pump`. -/
namespace Gamebook

namespace Transitions

variable {t : Transitions} {next : Nat} {x : ScreenChange}

theorem unread_eq_append (t : Transitions) (next : Nat) :
    ∃ missed : List Receipt, (∀ x, .change x ∉ missed) ∧
      t.unread next = missed ++ (t.kept.drop (next - t.dropped)).map .change := by
  unfold unread
  split
  · rename_i hbehind
    refine ⟨[.missed (t.dropped - next)], by simp, ?_⟩
    rw [Nat.sub_eq_zero_of_le hbehind.le, List.drop_zero, List.singleton_append]
  · exact ⟨[], by simp, rfl⟩

theorem mem_unread_iff : .change x ∈ t.unread next ↔ x ∈ t.kept.drop (next - t.dropped) := by
  obtain ⟨missed, hmissed, hunread⟩ := unread_eq_append t next
  rw [hunread, List.mem_append, List.mem_map]
  constructor
  · rintro (hx | ⟨y, hy, he⟩)
    · exact absurd hx (hmissed x)
    · cases he
      exact hy
  · exact fun hx => .inr ⟨x, hx, rfl⟩

/-- What was sent comes last, even where the channel drops what a receiver did not take. -/
theorem unread_send (h : next ≤ t.tail) (ch : ScreenChange) :
    ∃ receipts, (t.send ch).unread next = receipts ++ [.change ch] ∧
      ∀ x, .change x ∈ receipts → .change x ∈ t.unread next := by
  obtain ⟨missed, hmissed, hunread⟩ := unread_eq_append (t.send ch) next
  unfold tail at h
  -- so many of the old ones are not to be had any more
  let excess := (t.kept ++ [ch]).length - capacity
  let gone := excess + (next - (t.dropped + excess))
  have hexcess : excess ≤ t.kept.length := by
    simp only [excess, List.length_append, List.length_singleton, capacity]
    omega
  have hkept : (t.send ch).kept.drop (next - (t.send ch).dropped) = t.kept.drop gone ++ [ch] := by
    show ((t.kept ++ [ch]).drop excess).drop (next - (t.dropped + excess)) = _
    rw [List.drop_drop, List.drop_append_of_le_length (by omega)]
  refine ⟨missed ++ (t.kept.drop gone).map .change, ?_, fun x hx => mem_unread_iff.2 ?_⟩
  · rw [hunread, hkept, List.map_append, List.append_assoc]
    rfl
  · rcases List.mem_append.1 hx with hx | hx
    · exact absurd hx (hmissed x)
    · obtain ⟨y, hy, he⟩ := List.mem_map.1 hx
      cases he
      exact List.drop_subset_drop_left _ (by omega) hy

end Transitions

namespace App

open Act Storybook

/-- Players that look the same but for how far their panels are scrolled, and are at the same place. -/
structure Alike (a b : App) : Prop where
  stage : a.stage.unscrolled = b.stage.unscrolled
  mounted : a.storybook.mounted = b.storybook.mounted
  navigation : a.navigation = b.navigation
  taken : a.taken = b.taken

theorem Alike.refl (a : App) : Alike a a := ⟨rfl, rfl, rfl, rfl⟩

variable (c : Settings) (env : (r : Request) → r.Reply)

/-- A player at rest, and another one at the same place, with the same to be seen ahead. -/
structure Abreast (e b : App) : Prop where
  rested : Rested e
  sound : b.stage.Sound
  roster : b.roster = e.roster
  navigation : b.navigation = e.navigation
  bare : b.stage.bare = e.stage.bare
  scenes : ∀ screen, b.storybook.sceneOn? c env screen = e.storybook.sceneOn? c env screen
  taken : b.taken ≤ b.navigation.transitions.tail
  unread : ∀ x, .change x ∈ b.navigation.transitions.unread b.taken → x.generation ≤ b.stage.generation

/-- What the other player has to do to be where the first one is: nothing, or to deliver the change that brought
the first one there, before which it finds only changes that came too late. -/
inductive Owes (e b : App) : Prop
  | nothing : b = e → Owes e b
  | newest {ch : ScreenChange} {receipts : List Receipt} :
      b.navigation.transitions.unread b.taken = receipts ++ [.change ch] →
      (∀ x, .change x ∈ receipts → b.stage.isCurrent x.generation x.screen = false) →
      b.stage.isCurrent ch.generation ch.screen = true → (b.stage.surface? ch.screen).isSome = true →
      Attended c env ch.screen e.stories e.stories → Owes e b

variable {c env} {a e b : App} {raw : String}

theorem Abreast.refl (h : Rested a) : Abreast c env a a where
  rested := h
  sound := h.sound
  roster := rfl
  navigation := rfl
  bare := rfl
  scenes _ := rfl
  taken := h.drained.tail.le
  unread x hx := by
    rw [h.drained.unread_eq] at hx
    cases hx

theorem Abreast.granted?_eq (h : Abreast c env e b) (raw : String) : granted? c b raw = granted? c e raw := by
  rw [granted?, granted?, h.navigation]

section Step

variable {screen : ScreenId} (h : Abreast c env e b) (hsome : granted? c e raw = some screen)

include h hsome

theorem Abreast.unread_followed : ∃ receipts,
    (followed c env raw b).navigation.transitions.unread (followed c env raw b).taken =
      receipts ++ [.change ⟨screen, b.stage.generation + 1⟩] ∧
    ∀ x, .change x ∈ receipts → x.generation ≤ b.stage.generation := by
  obtain ⟨receipts, hunread, hold⟩ := Transitions.unread_send h.taken ⟨screen, b.stage.generation + 1⟩
  rw [followed_eq ((h.granted?_eq raw).trans hsome)]
  exact ⟨receipts, hunread, fun x hx => h.unread x (hold x hx)⟩

/-- One goes somewhere, and the other one follows without delivering the change. -/
theorem Abreast.follow_granted : Abreast c env (gone c env raw e) (followed c env raw b) := by
  have hsome' := (h.granted?_eq raw).trans hsome
  have hattended := attended_gone env hsome h.rested.sound
  obtain ⟨hbare, hpart⟩ := Navigation.bare_arrived c.navigation (docsOf env) screen (s := ⟨b.stage, b.navigation⟩)
    (t := ⟨e.stage, e.navigation⟩) h.bare h.navigation
  have hscenes : ∀ j, e.storybook.sceneOn? c env j = (gone c env raw e).storybook.sceneOn? c env j := by
    intro j
    refine .trans ?_ (hattended.sceneOn?_eq j).symm
    rw [followed_eq hsome]
    rfl
  obtain ⟨receipts, hunread, hold⟩ := h.unread_followed hsome
  refine ⟨rested_gone h.rested, ?_, ?_, ?_, .trans ?_ hattended.bare.symm, fun j => .trans ?_ (hscenes j), ?_,
    fun x hx => ?_⟩
  · rw [followed_eq hsome']
    exact Navigation.sound_arrived (c := c.navigation) h.sound
  · rw [followed_eq hsome', gone_eq hsome, followed_eq hsome]
    exact h.roster
  · rw [navigation_gone hsome, followed_eq hsome, followed_eq hsome']
    exact hpart
  · rw [followed_eq hsome, followed_eq hsome']
    exact hbare
  · rw [followed_eq hsome']
    exact h.scenes j
  · rw [followed_eq hsome']
    show b.taken ≤ (b.navigation.transitions.send _).tail
    rw [Transitions.tail_send]
    exact Nat.le_succ_of_le h.taken
  · rw [generation_followed hsome']
    rcases List.mem_append.1 (hunread ▸ hx) with hx | hx
    · exact Nat.le_succ_of_le (hold x hx)
    · cases List.mem_singleton.1 hx
      exact Nat.le_refl _

/-- The change that was not delivered is the one that is due; all before it are too late by now. -/
theorem Abreast.owes : Owes c env (gone c env raw e) (followed c env raw b) := by
  have hsome' := (h.granted?_eq raw).trans hsome
  obtain ⟨receipts, hunread, hold⟩ := h.unread_followed hsome
  refine .newest hunread (fun x hx => ?_) (current_followed hsome') ?_
    ((attended_gone env hsome h.rested.sound).again rfl rfl)
  · refine Bool.eq_false_iff.2 fun hcurrent => ?_
    have hlater := ((Stage.isCurrent_iff ..).1 hcurrent).1
    rw [generation_followed hsome'] at hlater
    have hearlier := hold x hx
    omega
  · obtain ⟨f, hf, -⟩ := (at_followed env hsome').alone.surface
    exact Option.isSome_iff_exists.2 ⟨f, hf⟩

end Step

theorem Abreast.follow (h : Abreast c env e b) (ho : Owes c env e b) (raw : String) :
    Abreast c env (gone c env raw e) (followed c env raw b) ∧ Owes c env (gone c env raw e) (followed c env raw b) := by
  cases hgranted : granted? c e raw with
  | none =>
    rw [gone_of_none hgranted, followed_of_none ((h.granted?_eq raw).trans hgranted)]
    exact ⟨h, ho⟩
  | some screen => exact ⟨h.follow_granted hgranted, h.owes hgranted⟩

theorem Abreast.pump (h : Abreast c env e b) (ho : Owes c env e b) :
    ∃ d, Concludes c env 3 (begin c .pump b).value (begin c .pump b).state d .nothing ∧ Alike d e ∧ Rested d := by
  obtain ⟨status, hroster⟩ := h.rested.crew
  cases ho with
  | nothing hsame =>
    subst hsame
    refine ⟨b, ?_, .refl b, h.rested⟩
    simp only [begin, bind_apply, pump_nil h.rested.drained]
    exact .done ..
  | @newest ch receipts hunread hlate hcurrent hsurface hattended =>
    have hvisited : Attended c env ch.screen b.stories (visited c env ch b.stories) :=
      attended_visited h.sound hcurrent hsurface
    obtain ⟨hstage, hmounted⟩ := hvisited.unscrolled_eq hattended h.bare (h.scenes ch.screen)
    refine ⟨toldOf c env ch b, concludes_pump .pumping .nothing (fun _ => rfl) (fun _ => rfl)
      (h.roster.trans hroster) hunread h.taken hlate hcurrent, ⟨hstage, hmounted, h.navigation, ?_⟩, hvisited.sound,
      ⟨status, h.roster.trans hroster⟩, Transitions.holds_tail _⟩
    show b.navigation.transitions.tail = e.taken
    rw [h.navigation, ← h.rested.drained.tail]
    rfl

end App
end Gamebook
