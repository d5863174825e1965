import Gamebook.Proofs.App.Panel
import Gamebook.Proofs.App.Ways
import Gamebook.Proofs.Storybook.Places
import Gamebook.Proofs.Trace

/-! Where the readers of a player are. A call moves a reader in one of two steps: the one that it is begun with,
if that is a choice, and the one in which a mount shows a scene. Everything else that calls do lets readers
rest: `moved_of_happens`. While documents do not change, a reader who is somewhere therefore stays there until
he chooses: `place_moves_by_choice_only`. -/
namespace Gamebook

open Act Protocol

theorem Table.get?_append {κ α : Type} [DecidableEq κ] (t t' : Table κ α) (k : κ) :
    Table.get? (t ++ t') k = (Table.get? t k).or (Table.get? t' k) := by
  induction t with
  | nil => rfl
  | cons entry t ih =>
    rw [List.cons_append, Table.get?_cons, Table.get?_cons, ih]
    split <;> rfl

namespace Waiting

def shows? (c : Settings) (s : Staged Storybook) : (w : Waiting) → w.request.Reply → Option (StoryId × NodeId)
  | .booting (.pumping w), reply => w.inner.shows? c.story reply s
  | .going (.pumping _ w), reply => w.inner.shows? c.story reply s
  | .tapping (.pumping _ w), reply => w.inner.shows? c.story reply s
  | .pumping w, reply => w.inner.shows? c.story reply s
  | .entering w, reply => w.shows? c.story reply s
  | .mounting w, reply => w.shows? c.story reply s
  | .notifying w, reply => w.inner.shows? c.story reply s
  | _, _ => none

end Waiting

def Progress.saving? : Progress Waiting Answer → Option Saving
  | .waiting w => w.saving?
  | .done _ => none

namespace App

variable {c : Settings}

/-- The choice that is made in a step of a call: one that leads somewhere is to be saved next. -/
def choice? (e : (protocol c).Event) : Option (StoryId × NodeId) :=
  e.course?.bind fun course => course.standing.saving?.map Saving.choice

def shown? (e : (protocol c).Event) : Option (StoryId × NodeId) :=
  e.exchange?.bind fun x => x.asked.shows? c e.before.state.stories x.reply

def place? (a : App) (story : StoryId) : Option NodeId := a.storybook.places.get? story

/-- Where the last choice of a story led; none if there was no choice. The last event comes first. -/
def lastChoice? (story : StoryId) (es : List (protocol c).Event) : Option NodeId :=
  Table.get? (es.filterMap choice?) story

/-- The first scene of a story that a mount showed. -/
def firstShown? (story : StoryId) (es : List (protocol c).Event) : Option NodeId :=
  Table.get? (es.filterMap shown?).reverse story

theorem lastChoice?_cons (story : StoryId) (e : (protocol c).Event) (es : List (protocol c).Event) :
    lastChoice? story (e :: es) = (Table.get? (choice? e).toList story).or (lastChoice? story es) := by
  rw [lastChoice?, List.filterMap_cons]
  cases choice? e with
  | none => rfl
  | some choice => exact Table.get?_append [choice] _ story

theorem firstShown?_cons (story : StoryId) (e : (protocol c).Event) (es : List (protocol c).Event) :
    firstShown? story (e :: es) = (firstShown? story es).or (Table.get? (shown? e).toList story) := by
  rw [firstShown?, List.filterMap_cons]
  cases shown? e with
  | none => exact (Option.or_none).symm
  | some shown =>
    rw [List.reverse_cons]
    exact Table.get?_append _ [shown] story

def Resting {α : Type} (x : Act App α) : Prop := ∀ a : App, a.storybook.Rests (x a).state.storybook

theorem way_rests : Way fun a b : App => a.storybook.Rests b.storybook := ⟨fun _ => .refl _, .trans⟩

namespace Resting

variable {α β : Type}

theorem pure (a : α) : Resting (pure a : Act App α) := Along.pure way_rests a

theorem bind {x : Act App α} {k : α → Act App β} (hx : Resting x) (hk : ∀ a, Resting (k a)) :
    Resting (x >>= k) :=
  Along.bind way_rests hx hk

end Resting

theorem resting_navigating {α : Type} (x : Act (Staged Navigation) α) : Resting (navigating x) :=
  fun _ => .refl _

theorem launches_rests : Launches c fun a b => a.storybook.Rests b.storybook where
  toWay := way_rests
  taken _ _ := .refl _
  enter change a := Storybook.rests_enter c.navigation change ⟨a.stage, a.storybook⟩
  roster _ _ := .refl _
  catalog _ _ := ⟨rfl, id⟩
  boots _ _ _ := .refl _

theorem resting_pump : Resting (pump c) := launches_rests.pump

theorem rests_resumePump (w : Telling) (reply : w.request.Reply) (a : App) :
    (w.inner.resume c.story reply a.stories).state.part.Rests (resumePump c w reply a).state.storybook :=
  launches_rests.resumePump w reply a

theorem saving?_map {ω α : Type} {f : ω → Waiting} (hf : ∀ w, (f w).saving? = none) (g : α → Answer)
    (p : Progress ω α) : (p.map f g).saving? = none := by
  cases p with
  | done a => rfl
  | waiting w => exact hf w

section Steps

variable {answers : (r : Request) → r.Reply → Prop} {first : Catalog} {a : App}

theorem moved_of_chooses {x : Act (Staged Storybook) (Progress Saving (Option NodeId))}
    (hx : Storybook.Chooses c.story a.stories (x a.stories)) {tag : Saving → Waiting}
    (htag : ∀ w, (tag w).saving? = some w) (answer : Option NodeId → Answer) :
    Storybook.Moved answers c.story first a.storybook (x a.stories).state.part
      (((x a.stories).value.map tag answer).saving?.map Saving.choice) none := by
  have hchoice : ((x a.stories).value.map tag answer).saving?.map Saving.choice = (x a.stories).value.choice? := by
    cases (x a.stories).value with
    | done node => rfl
    | waiting w => exact congrArg (Option.map Saving.choice) (htag w)
  rw [hchoice]
  exact Storybook.moved_of_chooses hx

theorem moved_begin {call : Call} (hplays : call.Plays) (a : App) :
    Storybook.Moved answers c.story first a.storybook (begin c call a).state.storybook
      ((begin c call a).value.saving?.map Saving.choice) none := by
  have hrests : Resting (begin c call) → (begin c call a).value.saving? = none →
      Storybook.Moved answers c.story first a.storybook (begin c call a).state.storybook
        ((begin c call a).value.saving?.map Saving.choice) none := by
    intro h hnone
    rw [hnone]
    exact .rests (h a)
  cases call with
  | boot link => exact hrests (Resting.bind (launches_rests.boot link) fun _ => .pure _) (saving?_map (fun _ => rfl) _ _)
  | go raw =>
    refine hrests (Resting.bind (x := go c raw) ((resting_navigating _).bind fun p => ?_) fun _ => .pure _)
      (saving?_map (fun _ => rfl) _ _)
    cases p with
    | done screen => exact resting_pump.bind fun _ => .pure _
    | waiting w => exact .pure _
  | tap p =>
    cases hslot : Storybook.slotAt? ⟨a.stage, a.storybook⟩ p with
    | some slot =>
      have hbegin : (begin c (.tap p) a).state.storybook = (Storybook.selectAt c.story p a.stories).state.part ∧
          (begin c (.tap p) a).value =
            (Storybook.selectAt c.story p a.stories).value.map (fun w => .tapping (.choosing w))
              fun node => .tapped (.slot node) := by
        simp only [begin, tap, bind_apply, get_apply, hslot, pure_apply]
        refine ⟨rfl, ?_⟩
        show Progress.map _ _ (Progress.map _ _ (Storybook.selectAt c.story p a.stories).value) = _
        cases (Storybook.selectAt c.story p a.stories).value <;> rfl
      rw [hbegin.1, hbegin.2]
      exact moved_of_chooses (Storybook.chooses_selectAt c.story p a.stories) (fun _ => rfl) _
    | none =>
      cases hv : (navigating (Navigation.dispatch c.navigation .up p) a).value with
      | waiting w =>
        simp only [begin, tap, bind_apply, get_apply, hslot, hv, pure_apply]
        exact .rests (.refl _)
      | done outcome =>
        simp only [begin, tap, thenPumpTap, bind_apply, get_apply, hslot, hv, pure_apply]
        have hrests := resting_pump (c := c) (navigating (Navigation.dispatch c.navigation .up p) a).state
        cases (pump c (navigating (Navigation.dispatch c.navigation .up p) a).state).value with
        | done => exact .rests hrests
        | waiting w => exact .rests hrests
  | choose slot =>
    exact moved_of_chooses (Storybook.chooses_choose c.story slot a.stories) (fun _ => rfl) _
  | pump => exact hrests (resting_pump.bind fun _ => .pure _) (saving?_map (fun _ => rfl) _ _)
  | _ => exact hplays.elim

/-- Only the first step of a call leaves a choice to be saved. -/
theorem saving?_resume {w : Waiting} (hregular : w.Regular first) (reply : w.request.Reply) (a : App) :
    (resume c w reply a).value.saving? = none := by
  match w, reply, hregular with
  | .booting w, reply, _ => exact saving?_map (fun _ => rfl) _ _
  | .going w, reply, _ => exact saving?_map (fun _ => rfl) _ _
  | .tapping (.choosing w), reply, _ => rfl
  | .tapping (.dispatching f), reply, _ =>
    show (Progress.map _ _ (Progress.map _ _ (pump c (navigating (Navigation.settle f reply) a).state).value)).saving?
      = none
    cases (pump c (navigating (Navigation.settle f reply) a).state).value <;> rfl
  | .tapping (.pumping outcome w), reply, _ =>
    show (Progress.map _ _ (Progress.map _ _ (resumePump c w reply a).value)).saving? = none
    cases (resumePump c w reply a).value <;> rfl
  | .saving w, reply, _ => rfl
  | .pumping w, reply, _ => exact saving?_map (fun _ => rfl) _ _

theorem moved_resume {w : Waiting} (hregular : w.Regular first)
    (hfetched : ∀ m ∈ w.mounts, m.Fetched answers c first) (reply : w.request.Reply) (a : App) :
    Storybook.Moved answers c.story first a.storybook (resume c w reply a).state.storybook
      ((resume c w reply a).value.saving?.map Saving.choice) (w.shows? c a.stories reply) := by
  rw [saving?_resume hregular, Option.map_none]
  have hmount : ∀ (t : Telling) (reply : t.request.Reply), t.inner.Fetched answers c first →
      Storybook.Moved answers c.story first a.storybook (resumePump c t reply a).state.storybook none
        (t.inner.shows? c.story reply a.stories) := fun t reply hfetched =>
    (Mounting.moved_resume hfetched reply a.stories).trans_rests (rests_resumePump t reply a)
  have hsaved : ∀ (s : Saving) (reply : s.request.Reply), a.storybook.Rests (s.resume reply a.stories).state.part := by
    intro s reply
    rw [Saving.resume_state]
    exact .refl _
  match w, reply, hregular, hfetched with
  | .booting (.turn link), (), _, _ => exact .rests (launches_rests.takeTurn link a)
  | .booting (.opening w), reply, _, _ => exact .rests (launches_rests.opening w reply a)
  | .booting (.starting w), reply, _, _ => exact .rests (launches_rests.starting w reply a)
  | .booting (.pumping t), reply, _, hfetched =>
    exact (Mounting.moved_resume (hfetched _ (Multiset.mem_singleton_self _)) reply a.stories).trans_rests
      (launches_rests.pumping t reply a)
  | .going (.following f), reply, _, _ => exact .rests (resting_pump (navigating (Navigation.settle f reply) a).state)
  | .going (.pumping screen t), reply, _, hfetched => exact hmount t reply (hfetched _ (Multiset.mem_singleton_self _))
  | .tapping (.choosing s), reply, _, _ => exact .rests (hsaved s reply)
  | .tapping (.dispatching f), reply, _, _ =>
    exact .rests (resting_pump (navigating (Navigation.settle f reply) a).state)
  | .tapping (.pumping outcome t), reply, _, hfetched =>
    exact hmount t reply (hfetched _ (Multiset.mem_singleton_self _))
  | .saving s, reply, _, _ => exact .rests (hsaved s reply)
  | .pumping t, reply, _, hfetched => exact hmount t reply (hfetched _ (Multiset.mem_singleton_self _))

end Steps

section Runs

variable {answers : (r : Request) → r.Reply → Prop} {catalog : Catalog}
variable {es : List (protocol c).Event} {e : (protocol c).Event} {f : (protocol c).Flight}

theorem choice?_begun (f : (protocol c).Flight) (call : Call) :
    choice? (.begun (protocol c) f call) = (begin c call f.state).value.saving?.map Saving.choice := by
  rw [choice?, Event.course?_begun]
  rfl

theorem choice?_resumed (a : App) (before after : List (protocol c).Course) (course : (protocol c).Course)
    (w : Waiting) (reply : ((protocol c).request w).Reply) :
    choice? (.resumed a before course after w reply) = (resume c w reply a).value.saving?.map Saving.choice := by
  rw [choice?, Event.course?_resumed]
  rfl

theorem waits_of_trace (h : (protocol c).Trace Call.Plays answers ⟨ofCatalog catalog, []⟩ es f)
    {course : (protocol c).Course} (hcourse : course ∈ f.courses) {w : Waiting} (hw : course.standing = .waiting w) :
    w.Regular catalog ∧ ∀ m ∈ w.mounts, m.Fetched answers c catalog := by
  obtain ⟨⟨queue, haloft⟩, -⟩ := aloft_of_run (run_iff_trace.2 ⟨es, h, rfl⟩)
  have hpending : w ∈ f.pending :=
    Multiset.mem_bind.2 ⟨.waiting w, Flight.mem_standings.2 ⟨course, hcourse, hw⟩, Multiset.mem_singleton_self w⟩
  exact ⟨haloft.regular w hpending, fun m hm =>
    (haloft.kept.tells.apt m (Multiset.mem_bind.2 ⟨w, hpending, hm⟩)).2.fetched⟩

theorem moved_of_happens (h : (protocol c).Trace Call.Plays answers ⟨ofCatalog catalog, []⟩ es e.before)
    (he : e.Happens Call.Plays answers) :
    Storybook.Moved answers c.story catalog e.before.state.storybook e.after.state.storybook (choice? e)
      (shown? e) := by
  cases he with
  | begin f hplays =>
    rw [choice?_begun]
    exact moved_begin hplays f.state
  | @resume s before after course w reply hw hready hreply =>
    obtain ⟨hregular, hfetched⟩ := waits_of_trace h (List.mem_append_right before List.mem_cons_self) hw
    rw [choice?_resumed]
    exact moved_resume hregular hfetched reply s

/-- What the outside may have said of a story holds of where its readers are, all along a run. -/
theorem rooted_of_trace (h : (protocol c).Trace Call.Plays answers ⟨ofCatalog catalog, []⟩ es f) :
    Storybook.Rooted answers c.story catalog f.state.storybook := by
  induction h with
  | start => exact Storybook.rooted_first
  | step h he ih => exact ih.moved (moved_of_happens h he)

variable {docs : String → Except SourceFault Json.Value}

/-- While documents do not change, a reader who is somewhere stays there unless he makes a choice. -/
theorem stays_unless_choice (h : (protocol c).Trace Call.Plays (Fixed docs) ⟨ofCatalog catalog, []⟩ es e.before)
    (he : e.Happens Call.Plays (Fixed docs)) {story : StoryId} {node : NodeId}
    (hplace : e.before.state.place? story = some node) :
    e.after.state.place? story = some ((lastChoice? story [e]).getD node) := by
  have hmoved := moved_of_happens h he
  have hplace' : e.before.state.storybook.places.get? story = some node := hplace
  rw [place?, hmoved.place story, hplace', lastChoice?_cons]
  rcases hmoved.shown?_eq rfl (rooted_of_trace h) hplace with hshown | hshown <;>
    cases Table.get? (choice? e).toList story <;> simp [hshown, lastChoice?]

theorem place?_of_trace (h : (protocol c).Trace Call.Plays (Fixed docs) ⟨ofCatalog catalog, []⟩ es f)
    (story : StoryId) : f.state.place? story = (lastChoice? story es).or (firstShown? story es) := by
  induction h with
  | start => rfl
  | @step es e h he ih =>
    have hmoved := moved_of_happens h he
    rw [place?, hmoved.place story, lastChoice?_cons, firstShown?_cons]
    cases hchoice : Table.get? (choice? e).toList story with
    | some target => rfl
    | none =>
      have hbefore : e.before.state.storybook.places.get? story = (lastChoice? story es).or (firstShown? story es) := ih
      cases hplace : e.before.state.storybook.places.get? story with
      | none =>
        rw [hplace, eq_comm, Option.or_eq_none_iff] at hbefore
        simp [hbefore]
      | some node =>
        rw [Option.none_or, Option.none_or, ← Option.or_assoc, ← hbefore, hplace]
        rcases hmoved.shown?_eq rfl (rooted_of_trace h) hplace with hshown | hshown <;> simp [hshown]

/-- **No reading progress is lost in memory.** While documents do not change, the place of a reader changes, once
it is known, only by a choice in that story, and then to where the choice leads. So it is always where the last
choice led, or if there was none, the first scene that was shown. -/
theorem place_moves_by_choice_only
    (h : (protocol c).Trace Call.Plays (Fixed docs) ⟨ofCatalog catalog, []⟩ es f) (story : StoryId) :
    (∀ e ∈ es, ∀ node, e.before.state.place? story = some node →
      e.after.state.place? story = some ((lastChoice? story [e]).getD node)) ∧
    f.state.place? story = (lastChoice? story es).or (firstShown? story es) := by
  refine ⟨fun e he node hplace => ?_, place?_of_trace h story⟩
  obtain ⟨later, earlier, rfl⟩ := List.append_of_mem he
  obtain ⟨hearlier, hhere, -⟩ := h.cut
  exact stays_unless_choice hearlier hhere hplace

end Runs

/-- An outside where the place that was saved stays at the first scene. -/
def staleMarker : (r : Request) → r.Reply
  | .document path => taleDocs path
  | .place _ => .ok (some ⟨"S1"⟩)
  | .savePlace _ _ => .ok ()
  | .turn => ()

/-- The reader goes on to the second scene, leaves for the yard and comes back, all before the choice is
saved. -/
def returningMoves : List (Move Call) :=
  [.begin (.boot none), .resume 0, .resume 0, .resume 0, .begin (.choose 0), .begin (.go "yard"),
    .begin (.go "story_a"), .resume 3, .resume 1]

def returningEvents : List (protocol {}).Event :=
  Flight.events (P := protocol {}) staleMarker ⟨ofCatalog taleCatalog, []⟩ returningMoves

theorem place_moves_by_choice_only_coming_back :
    ∃ f, (protocol {}).Trace Call.Plays (Fixed taleDocs) ⟨ofCatalog taleCatalog, []⟩ returningEvents f ∧
      f.state.place? ⟨"a"⟩ = some ⟨"S2"⟩ ∧ lastChoice? ⟨"a"⟩ returningEvents = some ⟨"S2"⟩ ∧
      firstShown? ⟨"a"⟩ returningEvents = some ⟨"S1"⟩ ∧
      f.state.place? ⟨"a"⟩ = (lastChoice? ⟨"a"⟩ returningEvents).or (firstShown? ⟨"a"⟩ returningEvents) := by
  have hstale : ∀ r, Fixed taleDocs r (staleMarker r) := fun r => by cases r <;> trivial
  have hscript : (protocol {}).Trace Call.Plays (Fixed taleDocs) ⟨ofCatalog taleCatalog, []⟩ returningEvents _ :=
    trace_script hstale (by simp [returningMoves, Call.Plays])
  exact ⟨_, hscript, by decide +kernel, by decide +kernel, by decide +kernel,
    (place_moves_by_choice_only hscript ⟨"a"⟩).2⟩

end App
end Gamebook
