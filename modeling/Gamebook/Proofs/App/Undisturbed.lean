import Gamebook.Proofs.App.Announcements
import Gamebook.Proofs.App.Answers
import Gamebook.Proofs.App.Delivery
import Gamebook.Proofs.Navigation.Arrivals
import Gamebook.Proofs.Storybook.Attended

/-! Calls that no other call comes in between of, made of a player at rest: its stories are started, and it has
taken all transitions. What such a call does in all is a function of the player and of what the outside answers:
`followed` for a bare navigation, `gone` for one whose transition is delivered. -/
namespace Gamebook

namespace Transitions

theorem holds_tail (t : Transitions) : t.Holds t.tail [] where
  kept := Nat.le_add_right ..
  queued := by simp [tail]
  tail := rfl

theorem foldl_after_unread {t : Transitions} {next : Nat} (h : next ≤ t.tail) :
    (t.unread next).foldl after next = t.tail := by
  have hchanges : ∀ (chs : List ScreenChange) (n : Nat), (chs.map Receipt.change).foldl after n = n + chs.length := by
    intro chs
    induction chs with
    | nil => exact fun _ => rfl
    | cons ch chs ih =>
      intro n
      rw [List.map_cons, List.foldl_cons, ih, List.length_cons]
      show n + 1 + _ = _
      omega
  unfold unread tail at *
  split
  · rw [List.foldl_cons, hchanges]
    show next + (t.dropped - next) + _ = _
    omega
  · rw [hchanges, List.length_drop]
    omega

end Transitions

namespace App

open Act Storybook

variable (c : Settings) (env : (r : Request) → r.Reply)

/-- A player after a whole navigation, before its transition is delivered. -/
def followed (raw : String) (a : App) : App :=
  match granted? c a raw with
  | some screen =>
    let s := Navigation.arrived c.navigation (docsOf env) screen ⟨a.stage, a.navigation⟩
    { a with stage := s.stage, navigation := s.part }
  | none => a

def toldOf (ch : ScreenChange) (a : App) : App :=
  let s := visited c env ch a.stories
  { a with stage := s.stage, storybook := s.part, taken := a.navigation.transitions.tail }

/-- A player after a whole navigation and the delivery of its transition. -/
def gone (raw : String) (a : App) : App :=
  match granted? c a raw with
  | some screen => toldOf c env ⟨screen, a.stage.generation + 1⟩ (followed c env raw a)
  | none => a

/-- A player at rest: its stories are started, and it has taken all transitions. A player that was booted is so once
its calls have returned, `rested_of_quiet`. -/
structure Rested (a : App) : Prop where
  sound : a.stage.Sound
  crew : ∃ status, a.roster = crewOf status true
  drained : a.navigation.transitions.Holds a.taken []

abbrev Concludes (n : Nat) (p : Progress Waiting Answer) (a b : App) (answer : Answer) : Prop :=
  Progress.Concludes Waiting.request (resume c) env n p a b answer

variable {c env} {a : App} {status : Roster.Status} {ch : ScreenChange} {raw : String}

theorem followed_of_none (h : granted? c a raw = none) : followed c env raw a = a := by
  simp only [followed, h]

theorem gone_of_none (h : granted? c a raw = none) : gone c env raw a = a := by
  simp only [gone, h]

theorem Concludes.telling {tag : Telling → Waiting} {answer : Answer} (hrequest : ∀ t, (tag t).request = t.request)
    (hresume : ∀ t, resume c (tag t) (env (tag t).request) =
      do return (← resumePump c t (env t.request)).map tag fun _ => answer)
    {n : Nat} {p : Progress Mounting (Option MountOutcome)} {s t : Staged Storybook} {outcome : Option MountOutcome}
    (h : Progress.Concludes Mounting.request (goOn c.story) env n p s t outcome)
    (hroster : a.roster = crewOf status true) (hdrained : a.navigation.transitions.Holds a.taken [])
    (hs : a.stories = s) :
    Concludes c env n ((p.map (Roster.Round.mk ch 1) fun _ => ()).map tag fun _ => answer) a
      { a with stage := t.stage, storybook := t.part } answer := by
  induction h generalizing a with
  | done =>
    subst hs
    exact .done ..
  | @waiting n m s t outcome hreads _ ih =>
    subst hs
    let w : Telling := ⟨ch, 1, m⟩
    obtain ⟨notices, hpump⟩ := resumePump_eq (c := c) (w := w) hroster rfl (env w.request) hdrained
    have hstep : resume c (tag w) (env (tag w).request) a =
        ⟨(reading (m.resume c.story (env m.request)) a).state, notices ++ [],
          (((goOn c.story m (env m.request) a.stories).value.map (Roster.Round.mk ch 1) fun _ => ()).map tag
            fun _ => answer)⟩ := by
      rw [hresume]
      simp only [bind_apply, hpump, pure_apply, goOn, Progress.map_map]
      rfl
    refine .waiting (by rw [hrequest]; exact hreads) ?_
    rw [hstep]
    exact ih (a := (reading (m.resume c.story (env m.request)) a).state) hroster hdrained rfl

theorem reading_late {x : ScreenChange} (hlate : a.stage.isCurrent x.generation x.screen = false) :
    reading (Storybook.enter c.navigation x) a = ⟨a, [], .done (some .stale)⟩ := by
  have hnot : ¬ a.stage.isCurrent x.generation x.screen = true := Bool.eq_false_iff.1 hlate
  simp only [reading, within_apply, Storybook.enter, bind_get, Act.ite_apply, if_neg hnot]
  rfl

/-- Of transitions that are not current the stories take no notice. -/
theorem deliver_late (hroster : a.roster = crewOf status true) {receipts : List Receipt}
    (hlate : ∀ x, .change x ∈ receipts → a.stage.isCurrent x.generation x.screen = false) (rest : List Receipt) :
    ∃ notices, deliver c (receipts ++ rest) a =
      ⟨(deliver c rest { a with taken := receipts.foldl Transitions.after a.taken }).state, notices,
        (deliver c rest { a with taken := receipts.foldl Transitions.after a.taken }).value⟩ := by
  induction receipts generalizing a with
  | nil => exact ⟨_, rfl⟩
  | cons receipt receipts ih =>
    obtain ⟨notices, hrest⟩ := ih (a := { a with taken := Transitions.after a.taken receipt }) hroster
      fun x hx => hlate x (List.mem_cons_of_mem _ hx)
    cases receipt with
    | missed count =>
      simp only [List.cons_append, deliver, bind_apply, modify_apply, give_apply, hrest, List.foldl_cons]
      exact ⟨_, rfl⟩
    | change x =>
      obtain ⟨notices', hnotify⟩ := notify_hearing (c := c)
        (a := { a with taken := Transitions.after a.taken (.change x) }) hroster x
      have hread := reading_late (c := c) (a := { a with taken := Transitions.after a.taken (.change x) })
        (hlate x List.mem_cons_self)
      rw [hread] at hnotify
      simp only [List.cons_append, deliver, bind_apply, modify_apply, hnotify, Progress.map, hrest, List.foldl_cons]
      exact ⟨_, rfl⟩

/-- The newest transition is told; the others have come too late. -/
theorem concludes_pump (tag : Telling → Waiting) (answer : Answer) (hrequest : ∀ t, (tag t).request = t.request)
    (hresume : ∀ t, resume c (tag t) (env (tag t).request) =
      do return (← resumePump c t (env t.request)).map tag fun _ => answer)
    (hroster : a.roster = crewOf status true) {receipts : List Receipt}
    (hunread : a.navigation.transitions.unread a.taken = receipts ++ [.change ch])
    (htaken : a.taken ≤ a.navigation.transitions.tail)
    (hlate : ∀ x, .change x ∈ receipts → a.stage.isCurrent x.generation x.screen = false)
    (hcur : a.stage.isCurrent ch.generation ch.screen = true) :
    Concludes c env 3 ((pump c a).value.map tag fun _ => answer) (pump c a).state (toldOf c env ch a) answer := by
  have hall : (receipts ++ [Receipt.change ch]).foldl Transitions.after a.taken = a.navigation.transitions.tail := by
    rw [← hunread]
    exact Transitions.foldl_after_unread htaken
  rw [List.foldl_append] at hall
  obtain ⟨notices, hdeliver⟩ := deliver_late (c := c) hroster hlate [.change ch]
  obtain ⟨notices', htell⟩ := deliver_hearing (c := c)
    (a := { a with taken := receipts.foldl Transitions.after a.taken }) hroster ch
  have hall : receipts.foldl Transitions.after a.taken + 1 = a.navigation.transitions.tail := hall
  obtain ⟨outcome, henter⟩ := concludes_enter c env ch (s := a.stories) hcur
  rw [pump, bind_get, hunread, hdeliver, htell, hall]
  let told := (reading (Storybook.enter c.navigation ch) { a with taken := a.navigation.transitions.tail }).state
  exact Concludes.telling (a := told) hrequest hresume henter hroster (Transitions.holds_tail _) rfl

section Calls

variable (c env) in
/-- A navigation that a player refuses, or that it accepts and that is over at once, or as soon as the regions
have come. -/
inductive Follows (raw : String) (a : App) : Made App (Progress Fitting (Option ScreenId)) → Prop
  | refused (notices : List Notice) : granted? c a raw = none → Follows raw a ⟨a, notices, .done none⟩
  | arrived {screen : ScreenId} (notices : List Notice) : granted? c a raw = some screen →
      Follows raw a ⟨followed c env raw a, notices, .done (some screen)⟩
  | departed {screen : ScreenId} {b : App} {w : Fitting} (notices : List Notice) : granted? c a raw = some screen →
      w.screen = screen →
      (navigating (Navigation.settle w (docsOf env w.document.text)) b).state = followed c env raw a →
      Follows raw a ⟨b, notices, .waiting w⟩

variable (c env) in
theorem follows_follow (raw : String) (a : App) :
    Follows c env raw a (navigating (Navigation.follow c.navigation raw) a) := by
  simp only [navigating, within_apply, Navigation.follow]
  cases hr : a.navigation.registry with
  | none =>
    simp only [Navigation.go, bind_get, hr]
    exact .refused _ (by simp [granted?, hr])
  | some registry =>
    cases hm : a.navigation.memory.resolve (Screen.Route.ofText c.navigation.aliases raw) registry with
    | error cause =>
      rw [Navigation.go_of_error (s := ⟨a.stage, a.navigation⟩) hr hm]
      exact .refused _ (by simp [granted?, hr, hm, Except.toOption])
    | ok screen =>
      have hgranted : granted? c a raw = some screen := by simp [granted?, hr, hm, Except.toOption]
      have hfollowed : followed c env raw a =
          let s := Navigation.arrived c.navigation (docsOf env) screen ⟨a.stage, a.navigation⟩
          { a with stage := s.stage, navigation := s.part } := by
        simp only [followed, hgranted]
      rcases Navigation.arrives_go (docsOf env) (c := c.navigation) (s := ⟨a.stage, a.navigation⟩) hr hm with
        ⟨hvalue, hstate⟩ | ⟨w, hvalue, hscreen, hstate⟩
      · rw [hvalue, hstate, ← hfollowed]
        exact .arrived _ hgranted
      · rw [hvalue]
        refine .departed _ hgranted hscreen ?_
        rw [hfollowed, ← hstate]
        rfl

theorem concludes_follow (raw : String) (a : App) :
    Concludes c env 1 (begin c (.follow raw) a).value (begin c (.follow raw) a).state (followed c env raw a)
      (.screen (granted? c a raw)) := by
  have h := follows_follow c env raw a
  simp only [begin, bind_apply, pure_apply]
  generalize navigating (Navigation.follow c.navigation raw) a = made at h ⊢
  cases h with
  | refused _ hnone =>
    rw [hnone, followed_of_none hnone]
    exact .done ..
  | arrived _ hsome =>
    rw [hsome]
    exact .done ..
  | @departed screen b w _ hsome hscreen hsettled =>
    refine .waiting trivial ?_
    have hvalue : (navigating (Navigation.settle w (docsOf env w.document.text)) b).value = some w.screen :=
      Navigation.settle_value ..
    simp only [resume, bind_apply, pure_apply, hvalue, hsettled, hscreen, hsome]
    exact .done ..

section Granted

variable {screen : ScreenId} (hsome : granted? c a raw = some screen)

include hsome

theorem followed_eq : followed c env raw a =
    let s := Navigation.arrived c.navigation (docsOf env) screen ⟨a.stage, a.navigation⟩
    { a with stage := s.stage, navigation := s.part } := by
  simp only [followed, hsome]

theorem gone_eq : gone c env raw a = toldOf c env ⟨screen, a.stage.generation + 1⟩ (followed c env raw a) := by
  simp only [gone, hsome]

theorem generation_followed : (followed c env raw a).stage.generation = a.stage.generation + 1 := by
  rw [followed_eq hsome]
  rfl

theorem current_followed : (followed c env raw a).stage.isCurrent (a.stage.generation + 1) screen = true := by
  rw [followed_eq hsome, Stage.isCurrent_iff]
  exact ⟨rfl, rfl⟩

/-- The only transition that a player at rest finds after a navigation is its own. -/
theorem unread_followed (h : Rested a) :
    (followed c env raw a).navigation.transitions.unread (followed c env raw a).taken =
    [] ++ [.change ⟨screen, a.stage.generation + 1⟩] := by
  have hholds := h.drained.send ⟨screen, a.stage.generation + 1⟩ (by decide)
  rw [followed_eq hsome]
  exact hholds.unread_eq

theorem concludes_going (h : Rested a) :
    Concludes c env 3 ((thenPump c (some screen) (followed c env raw a)).value.map .going .screen)
      (thenPump c (some screen) (followed c env raw a)).state (gone c env raw a) (.screen (some screen)) := by
  obtain ⟨status, hroster⟩ := h.crew
  have hfollowed : (followed c env raw a).roster = crewOf status true := by
    rw [followed_eq hsome]
    exact hroster
  have htaken : (followed c env raw a).taken ≤ (followed c env raw a).navigation.transitions.tail := by
    rw [followed_eq hsome]
    show a.taken ≤ (a.navigation.transitions.send ⟨screen, a.stage.generation + 1⟩).tail
    rw [Transitions.tail_send, ← h.drained.tail]
    exact Nat.le_succ _
  have hresume : ∀ t : Telling, resume c (.going (.pumping (some screen) t)) (env t.request) =
      do return goingOn (some screen) (← resumePump c t (env t.request)) := by
    intro t
    funext b
    simp only [resume, Going.resume, goingOn, bind_apply, pure_apply, Progress.map_map, List.append_nil]
  have hpump := concludes_pump (fun t => .going (.pumping (some screen) t)) (.screen (some screen)) (fun _ => rfl)
    hresume hfollowed (unread_followed hsome h) htaken (fun x hx => absurd hx List.not_mem_nil)
    (current_followed hsome)
  rw [gone_eq hsome]
  simp only [thenPump, bind_apply, pure_apply, Progress.map_map]
  exact hpump

end Granted

theorem concludes_go (raw : String) (h : Rested a) :
    Concludes c env 4 (begin c (.go raw) a).value (begin c (.go raw) a).state (gone c env raw a)
      (.screen (granted? c a raw)) := by
  have hfollows := follows_follow c env raw a
  simp only [begin, go, bind_apply, pure_apply]
  generalize navigating (Navigation.follow c.navigation raw) a = made at hfollows ⊢
  cases hfollows with
  | refused _ hnone =>
    have hpump : thenPump c none a = ⟨a, [] ++ [], .done none⟩ := by
      simp only [thenPump, bind_apply, pump_nil h.drained]
      rfl
    dsimp only
    rw [hpump, gone_of_none hnone, hnone]
    exact .done ..
  | arrived _ hsome =>
    rw [hsome]
    exact (concludes_going hsome h).mono (Nat.le_succ 3)
  | @departed screen b w _ hsome hscreen hsettled =>
    refine .waiting trivial ?_
    have hvalue : (navigating (Navigation.settle w (docsOf env w.document.text)) b).value = some w.screen :=
      Navigation.settle_value ..
    simp only [resume, Going.resume, bind_apply, pure_apply, hvalue, hsettled, hscreen]
    rw [hsome]
    exact concludes_going hsome h

end Calls

section Gone

variable {screen : ScreenId} (hsome : granted? c a raw = some screen)

include hsome

variable (env) in
theorem at_followed : Navigation.At c.navigation (docsOf env) screen
    ⟨(followed c env raw a).stage, (followed c env raw a).navigation⟩ := by
  rw [followed_eq hsome]
  exact Navigation.at_arrived

variable (env) in
/-- The stories have attended the screen once the transition was delivered. -/
theorem attended_gone (h : a.stage.Sound) :
    Attended c env screen (followed c env raw a).stories (gone c env raw a).stories := by
  obtain ⟨f, hf, -⟩ := (at_followed env hsome).alone.surface
  rw [gone_eq hsome]
  refine attended_visited ?_ (current_followed hsome)
    (Option.isSome_iff_exists.2 ⟨f, hf⟩)
  rw [followed_eq hsome]
  exact Navigation.sound_arrived (c := c.navigation) h

theorem navigation_gone : (gone c env raw a).navigation = (followed c env raw a).navigation := by
  rw [gone_eq hsome]
  rfl

omit hsome in
theorem rested_gone (h : Rested a) : Rested (gone c env raw a) := by
  cases hgranted : granted? c a raw with
  | none =>
    rw [gone_of_none hgranted]
    exact h
  | some screen =>
    obtain ⟨status, hroster⟩ := h.crew
    refine ⟨(attended_gone env hgranted h.sound).sound, ⟨status, ?_⟩, ?_⟩
    · rw [gone_eq hgranted, followed_eq hgranted]
      exact hroster
    · rw [gone_eq hgranted]
      exact Transitions.holds_tail _

end Gone

theorem rested_of_quiet {first : Catalog} {answers : (r : Request) → r.Reply → Prop} {log : List (App × App)}
    {f : (protocol c).Flight} (hrun : (protocol c).Run Call.Plays answers ⟨ofCatalog first, []⟩ log f)
    (hquiet : f.Quiet) (hbooted : f.state.booted = true) : Rested f.state := by
  obtain ⟨⟨queue, haloft⟩, -⟩ := aloft_of_run hrun
  have hkept := kept_of_quiet hrun hquiet
  rw [hquiet.pending_eq_zero] at haloft
  obtain ⟨-, -, hhears⟩ := haloft.seated.free_of_booting (haloft.seated.booting_eq_false rfl)
  obtain ⟨status, hroster⟩ := hkept.crew
  exact ⟨hkept.tells.shown.sound, ⟨status, by rw [hroster, ← hhears, hbooted]⟩, hkept.channel⟩

end App
end Gamebook
