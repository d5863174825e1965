import Gamebook.Proofs.App.Places

/-! Sessions over any store of places. A store is asked for a place each time that a story is mounted, but what it
replies counts only while the session itself knows of none; what it replies to a save does not count at all. So
a session whose calls are made one after another comes to the same over every store that knows the same of the
readers who are new to it: `results_over_any_store`. -/
namespace Gamebook

open Act
open Story (Graph)

/-- A store of places, by what it replies. It need not reply twice alike, so that a reply goes with the number
of requests that were made before. -/
structure PlaceStore where
  load : Nat → StoryId → Except StoreFault (Option NodeId)
  save : Nat → StoryId → NodeId → Except StoreFault Unit

def PlaceStore.reply (docs : String → Except SourceFault Json.Value) (store : PlaceStore) (n : Nat) :
    (r : Request) → r.Reply
  | .document path => docs path
  | .place story => store.load n story
  | .savePlace story node => store.save n story node
  | .turn => ()

theorem PlaceStore.fixed_reply (docs : String → Except SourceFault Json.Value) (store : PlaceStore) (n : Nat)
    (r : Request) : Fixed docs r (store.reply docs n r) := by
  cases r <;> trivial

/-- The same state and value; only the notices may differ. -/
structure Made.Same {σ α : Type} (made made' : Made σ α) : Prop where
  state : made'.state = made.state
  value : made'.value = made.value

namespace Made.Same

variable {σ α β : Type}

theorem refl (made : Made σ α) : made.Same made := ⟨rfl, rfl⟩

theorem bind {x y : Act σ α} {s : σ} (h : (x s).Same (y s)) (k : α → Act σ β) :
    ((x >>= k) s).Same ((y >>= k) s) := by
  simp only [bind_apply]
  rw [h.state, h.value]
  exact ⟨rfl, rfl⟩

theorem reading {x y : Act (Staged Storybook) α} {a : App} (h : (x a.stories).Same (y a.stories)) :
    (App.reading x a).Same (App.reading y a) :=
  ⟨congrArg (fun s : Staged Storybook => { a with stage := s.stage, storybook := s.part }) h.state, h.value⟩

end Made.Same

namespace Storybook

theorem same_settle (c : StorySettings) (v : Visit) (graph : Option Graph) {saved saved' : Option NodeId}
    {s : Staged Storybook}
    (h : ∀ g, filled? graph = some g → resumeNode? g (s.part.places.get? v.story) saved' =
      resumeNode? g (s.part.places.get? v.story) saved) :
    (settle c v graph saved s).Same (settle c v graph saved' s) := by
  have hsettles := settles_settle c v graph saved s
  have hsettles' := settles_settle c v graph saved' s
  generalize settle c v graph saved s = made at hsettles ⊢
  generalize settle c v graph saved' s = made' at hsettles' ⊢
  cases hsettles with
  | stale _ hstale =>
    cases hsettles' with
    | stale => exact ⟨rfl, rfl⟩
    | empty _ hcur => rw [hstale] at hcur; cases hcur
    | rendered _ hcur => rw [hstale] at hcur; cases hcur
  | empty _ hcur hnone =>
    cases hsettles' with
    | stale _ hstale => rw [hstale] at hcur; cases hcur
    | empty => exact ⟨rfl, rfl⟩
    | rendered _ _ hfilled => rw [hnone] at hfilled; cases hfilled
  | rendered _ hcur hfilled hnode =>
    cases hsettles' with
    | stale _ hstale => rw [hstale] at hcur; cases hcur
    | empty _ _ hnone => rw [hnone] at hfilled; cases hfilled
    | rendered _ _ hfilled' hnode' =>
      obtain rfl := Option.some.inj (hfilled.symm.trans hfilled')
      rw [h _ hfilled, hnode] at hnode'
      obtain rfl := Option.some.inj hnode'
      exact ⟨rfl, rfl⟩

/-- A reader whose place is known goes on there, whatever is saved. -/
theorem resumeNode?_of_contains {g : Graph} {node : NodeId} (h : g.contains node = true) (saved : Option NodeId) :
    resumeNode? g (some node) saved = some node := by
  simp [resumeNode?, Option.filter, h]

end Storybook

section Mounts

variable {docs : String → Except SourceFault Json.Value} {c : Settings} {first : Catalog}
variable {store store' : PlaceStore} {n : Nat}

theorem Mounting.same_resume {w : Mounting} (hfetched : w.Fetched (Fixed docs) c first) {s : Staged Storybook}
    (hrooted : Storybook.Rooted (Fixed docs) c.story first s.part)
    (hagree : ∀ story, w.request = .place story → s.part.places.get? story = none →
      store'.load n story = store.load n story) :
    (w.resume c.story (store.reply docs n w.request) s).Same
      (w.resume c.story (store'.reply docs n w.request) s) := by
  match w, hfetched with
  | .locating v w, _ => exact .refl _
  | .opening v url, _ => exact .refl _
  | .recalling v graph, hyields =>
    have hsettle : ∀ reply : Except StoreFault (Option NodeId),
        ((Mounting.recalling v graph).resume c.story reply s).state =
            (Storybook.settle c.story v graph reply.toOption.join s).state ∧
          ((Mounting.recalling v graph).resume c.story reply s).value =
            .done (Storybook.settle c.story v graph reply.toOption.join s).value := by
      intro reply
      cases reply <;> exact ⟨rfl, rfl⟩
    have hsame : (Storybook.settle c.story v graph (store.load n v.story).toOption.join s).Same
        (Storybook.settle c.story v graph (store'.load n v.story).toOption.join s) := by
      refine Storybook.same_settle c.story v graph fun g hfilled => ?_
      cases hplace : s.part.places.get? v.story with
      | none => rw [hagree v.story rfl hplace]
      | some node =>
        obtain ⟨graph', hends, hin⟩ := hrooted.places hplace
        have hends' : Ends (Fixed docs) c.story first v.story (some g) := hfilled ▸ .read hyields
        obtain rfl : graph' = g := Option.some.inj (hends.eq_storyGraph?.trans hends'.eq_storyGraph?.symm)
        rw [Storybook.resumeNode?_of_contains hin, Storybook.resumeNode?_of_contains hin]
    obtain ⟨hstate, hvalue⟩ := hsettle (store.load n v.story)
    obtain ⟨hstate', hvalue'⟩ := hsettle (store'.load n v.story)
    exact ⟨hstate'.trans (hsame.state.trans hstate.symm),
      hvalue'.trans ((congrArg Progress.done hsame.value).trans hvalue.symm)⟩

theorem Saving.same_resume (w : Saving) (reply reply' : w.request.Reply) (s : Staged Storybook) :
    (w.resume reply s).Same (w.resume reply' s) :=
  ⟨(w.resume_state reply' s).trans (w.resume_state reply s).symm, by cases reply <;> cases reply' <;> rfl⟩

namespace App

theorem same_resume {w : Waiting} (hregular : w.Regular first)
    (hfetched : ∀ m ∈ w.mounts, m.Fetched (Fixed docs) c first) {a : App}
    (hrooted : Storybook.Rooted (Fixed docs) c.story first a.storybook)
    (hagree : ∀ story, w.request = .place story → a.place? story = none → store'.load n story = store.load n story) :
    (resume c w (store.reply docs n w.request) a).Same (resume c w (store'.reply docs n w.request) a) := by
  have hmount : ∀ t : Telling, t.inner ∈ w.mounts → t.request = w.request →
      (resumePump c t (store.reply docs n t.request) a).Same (resumePump c t (store'.reply docs n t.request) a) := by
    intro t ht hrequest
    refine .bind (.bind (.reading ?_) _) _
    exact Mounting.same_resume (hfetched _ ht) hrooted fun story hstory => hagree story (hrequest ▸ hstory)
  match w, hregular, hmount with
  | .booting (.turn _), _, _ => exact .refl _
  | .booting (.opening (.registry _ _)), _, _ => exact .refl _
  | .booting (.opening (.regions _)), _, _ => exact .refl _
  | .booting (.starting _), _, _ => exact .refl _
  | .booting (.pumping t), _, hmount => exact .bind (.bind (hmount t (Multiset.mem_singleton_self _) rfl) _) _
  | .going (.following _), _, _ => exact .refl _
  | .going (.pumping _ t), _, hmount => exact .bind (.bind (hmount t (Multiset.mem_singleton_self _) rfl) _) _
  | .tapping (.choosing s), _, _ => exact .bind (.bind (.reading (s.same_resume _ _ _)) _) _
  | .tapping (.dispatching _), _, _ => exact .refl _
  | .tapping (.pumping _ t), _, hmount => exact .bind (.bind (hmount t (Multiset.mem_singleton_self _) rfl) _) _
  | .saving s, _, _ => exact .bind (.reading (s.same_resume _ _ _)) _
  | .pumping t, _, hmount => exact .bind (hmount t (Multiset.mem_singleton_self _) rfl) _

end App
end Mounts

namespace App

/-- The load of a story that the session knows no place of, with its number. -/
def newcomer? (n : Nat) (a : App) : Request → Option (Nat × StoryId)
  | .place story => if a.place? story = none then some (n, story) else none
  | _ => none

section Calls

variable (c : Settings) (docs : String → Except SourceFault Json.Value) (store : PlaceStore)

/-- From the request of a number on, a call goes on to its answer; with the loads on behalf of newcomers, the
number of the next request, and the player in the end. -/
inductive Finishes : Nat → Progress Waiting Answer → App → List (Nat × StoryId) → Nat → App → Answer → Prop
  | done (n : Nat) (answer : Answer) (a : App) : Finishes n (.done answer) a [] n a answer
  | waiting {n m : Nat} {w : Waiting} {a b : App} {loads : List (Nat × StoryId)} {answer : Answer} :
      (protocol c).ready a w = true →
      Finishes (n + 1) (resume c w (store.reply docs n w.request) a).value
        (resume c w (store.reply docs n w.request) a).state loads m b answer →
      Finishes n (.waiting w) a ((newcomer? n a w.request).toList ++ loads) m b answer

/-- Calls are made, each when the one before it has its answer; with the answer of each and the player after it. -/
inductive Performs : Nat → App → List Call → List (Nat × StoryId) → List (Answer × App) → Prop
  | nil (n : Nat) (a : App) : Performs n a [] [] []
  | cons {n m : Nat} {call : Call} {calls : List Call} {a b : App} {loads loads' : List (Nat × StoryId)}
      {answer : Answer} {results : List (Answer × App)} :
      Finishes c docs store n (begin c call a).value (begin c call a).state loads m b answer →
      Performs m b calls loads' results →
      Performs n a (call :: calls) (loads ++ loads') ((answer, b) :: results)

end Calls

section Stores

variable {c : Settings} {docs : String → Except SourceFault Json.Value} {store store' : PlaceStore}
variable {catalog : Catalog} {n m m' : Nat} {p : Progress Waiting Answer} {a b b' : App}
variable {loads loads' : List (Nat × StoryId)} {answer answer' : Answer} {calls : List Call}
variable {results results' : List (Answer × App)}

theorem Finishes.unique (h : Finishes c docs store n p a loads m b answer)
    (h' : Finishes c docs store n p a loads' m' b' answer') : m' = m ∧ b' = b ∧ answer' = answer := by
  induction h generalizing loads' with
  | done =>
    cases h'
    exact ⟨rfl, rfl, rfl⟩
  | waiting _ _ ih =>
    cases h' with
    | waiting _ h' => exact ih h'

theorem Performs.unique (h : Performs c docs store n a calls loads results)
    (h' : Performs c docs store n a calls loads' results') : results' = results := by
  induction h generalizing loads' results' with
  | nil =>
    cases h'
    rfl
  | cons hcall _ ih =>
    cases h' with
    | cons hcall' hrest' =>
      obtain ⟨rfl, rfl, rfl⟩ := hcall.unique hcall'
      rw [ih hrest']

variable (c docs catalog) in
structure Steady (a : App) (p : Progress Waiting Answer) : Prop where
  aloft : ∃ told queue, Aloft (Fixed docs) c catalog told queue (p.pending + 0) a
  rooted : Storybook.Rooted (Fixed docs) c.story catalog a.storybook

theorem steady_start (answer : Answer) : Steady c docs catalog (ofCatalog catalog) (.done answer) :=
  ⟨⟨0, [], aloft_start⟩, Storybook.rooted_first⟩

namespace Steady

theorem begin (h : Steady c docs catalog a (.done answer)) {call : Call} (hplays : call.Plays) :
    Steady c docs catalog (begin c call a).state (begin c call a).value := by
  obtain ⟨told, queue, haloft⟩ := h.aloft
  obtain ⟨queue', haloft'⟩ := (advanced_begin hplays haloft).aloft
  exact ⟨⟨_, queue', haloft'⟩, h.rooted.moved (moved_begin hplays a)⟩

variable {w : Waiting} (h : Steady c docs catalog a (.waiting w))

include h

theorem regular : w.Regular catalog := by
  obtain ⟨told, queue, haloft⟩ := h.aloft
  exact haloft.regular w (Multiset.mem_add.2 (.inl (Multiset.mem_singleton_self w)))

theorem fetched : ∀ m ∈ w.mounts, m.Fetched (Fixed docs) c catalog := by
  obtain ⟨told, queue, haloft⟩ := h.aloft
  intro m hm
  refine (haloft.kept.tells.apt m (Multiset.mem_bind.2 ⟨w, ?_, hm⟩)).2.fetched
  exact Multiset.mem_add.2 (.inl (Multiset.mem_singleton_self w))

theorem resume (hready : (protocol c).ready a w = true) {reply : w.request.Reply}
    (hreply : Fixed docs w.request reply) :
    Steady c docs catalog (resume c w reply a).state (resume c w reply a).value := by
  obtain ⟨told, queue, haloft⟩ := h.aloft
  obtain ⟨queue', haloft'⟩ := (advanced_resume haloft hready hreply).aloft
  exact ⟨⟨_, queue', haloft'⟩, h.rooted.moved (moved_resume h.regular h.fetched reply a)⟩

end Steady

/-- Over a store that knows the same of newcomers, a call comes to the same. -/
theorem Finishes.over (h : Finishes c docs store n p a loads m b answer) (hsteady : Steady c docs catalog a p)
    (hagree : ∀ l ∈ loads, store'.load l.1 l.2 = store.load l.1 l.2) :
    Finishes c docs store' n p a loads m b answer ∧ Steady c docs catalog b (.done answer) := by
  induction h with
  | done n answer a => exact ⟨.done n answer a, hsteady⟩
  | @waiting n m w a b loads answer hready _ ih =>
    have hsame : (App.resume c w (store.reply docs n w.request) a).Same
        (App.resume c w (store'.reply docs n w.request) a) := by
      refine same_resume hsteady.regular hsteady.fetched hsteady.rooted fun story hstory hplace => ?_
      refine hagree (n, story) (List.mem_append_left _ ?_)
      rw [hstory, newcomer?, if_pos hplace]
      exact List.mem_singleton_self _
    obtain ⟨hrest, hend⟩ := ih (hsteady.resume hready (store.fixed_reply docs n _)) fun l hl =>
      hagree l (List.mem_append_right _ hl)
    rw [← hsame.state, ← hsame.value] at hrest
    exact ⟨.waiting hready hrest, hend⟩

theorem Performs.over (h : Performs c docs store n a calls loads results) (answer : Answer)
    (hsteady : Steady c docs catalog a (.done answer)) (hplays : ∀ call ∈ calls, call.Plays)
    (hagree : ∀ l ∈ loads, store'.load l.1 l.2 = store.load l.1 l.2) :
    Performs c docs store' n a calls loads results := by
  induction h generalizing answer with
  | nil n a => exact .nil n a
  | cons hcall _ ih =>
    obtain ⟨hfirst, hcalls⟩ := List.forall_mem_cons.1 hplays
    obtain ⟨hcall', hend⟩ := hcall.over (hsteady.begin hfirst) fun l hl => hagree l (List.mem_append_left _ hl)
    exact .cons hcall' (ih _ hend hcalls fun l hl => hagree l (List.mem_append_right _ hl))

/-- **What is kept does not show in a session.** Calls that someone makes one after another come to the same over
two stores of places, each answer and all of the player after each call, if the stores agree on each load of a
story that the session does not know a place of yet. All else they reply as they like. -/
theorem results_over_any_store (hplays : ∀ call ∈ calls, call.Plays)
    (h : Performs c docs store 0 (ofCatalog catalog) calls loads results)
    (hagree : ∀ l ∈ loads, store'.load l.1 l.2 = store.load l.1 l.2) (results' : List (Answer × App)) :
    (∃ loads', Performs c docs store' 0 (ofCatalog catalog) calls loads' results') ↔ results' = results := by
  have hover := h.over .nothing (steady_start _) hplays hagree
  constructor
  · rintro ⟨loads', h'⟩
    exact hover.unique h'
  · rintro rfl
    exact ⟨loads, hover⟩

end Stores

section Computed

variable (c : Settings) (docs : String → Except SourceFault Json.Value) (store : PlaceStore)

def finish? : Nat → Nat → Progress Waiting Answer → App → Option (List (Nat × StoryId) × Nat × App × Answer)
  | _, n, .done answer, a => some ([], n, a, answer)
  | 0, _, .waiting _, _ => none
  | k + 1, n, .waiting w, a =>
    if (protocol c).ready a w then
      let made := resume c w (store.reply docs n w.request) a
      (finish? k (n + 1) made.value made.state).map fun r => ((newcomer? n a w.request).toList ++ r.1, r.2)
    else none

def perform? (k : Nat) : Nat → App → List Call → Option (List (Nat × StoryId) × List (Answer × App))
  | _, _, [] => some ([], [])
  | n, a, call :: calls => do
    let (loads, m, b, answer) ← finish? c docs store k n (begin c call a).value (begin c call a).state
    let (loads', results) ← perform? k m b calls
    return (loads ++ loads', (answer, b) :: results)

variable {c docs store}

theorem finishes_of_finish? {k n m : Nat} {p : Progress Waiting Answer} {a b : App} {loads : List (Nat × StoryId)}
    {answer : Answer} (h : finish? c docs store k n p a = some (loads, m, b, answer)) :
    Finishes c docs store n p a loads m b answer := by
  induction k generalizing n p a loads with
  | zero =>
    cases p with
    | done => cases h; exact .done ..
    | waiting => cases h
  | succ k ih =>
    cases p with
    | done => cases h; exact .done ..
    | waiting w =>
      rw [finish?] at h
      split at h
      · rename_i hready
        obtain ⟨⟨rest, end'⟩, hr, he⟩ := Option.map_eq_some_iff.1 h
        cases he
        exact .waiting hready (ih hr)
      · cases h

theorem performs_of_perform? {k n : Nat} {a : App} {calls : List Call} {loads : List (Nat × StoryId)}
    {results : List (Answer × App)} (h : perform? c docs store k n a calls = some (loads, results)) :
    Performs c docs store n a calls loads results := by
  induction calls generalizing n a loads results with
  | nil => cases h; exact .nil n a
  | cons call calls ih =>
    obtain ⟨⟨loads₁, m, b, answer⟩, hcall, h⟩ := Option.bind_eq_some_iff.1 h
    obtain ⟨⟨loads₂, rest⟩, hrest, h⟩ := Option.bind_eq_some_iff.1 h
    cases h
    exact .cons (finishes_of_finish? hcall) (ih hrest)

end Computed

/-- A store that has no place at first, and keeps what is saved. -/
def keeper : PlaceStore where
  load n _ := .ok (if n = 2 then none else some ⟨"S2"⟩)
  save _ _ _ := .ok ()

/-- A store that has no place at first, and refuses everything from then on. -/
def refuser : PlaceStore where
  load n _ := if n = 2 then .ok none else .error (.unavailable "load refused")
  save _ _ _ := .error (.unavailable "save refused")

def roundTrip : List Call := [.boot none, .choose 0, .go "yard", .go "story_a"]

theorem results_over_any_store_on_a_round_trip :
    ∃ loads results, Performs {} taleDocs keeper 0 (ofCatalog taleCatalog) roundTrip loads results ∧
      (∀ l ∈ loads, refuser.load l.1 l.2 = keeper.load l.1 l.2) ∧
      results.map (fun r => r.2.place? ⟨"a"⟩) = [some ⟨"S1"⟩, some ⟨"S2"⟩, some ⟨"S2"⟩, some ⟨"S2"⟩] ∧
      ∀ results', (∃ loads', Performs {} taleDocs refuser 0 (ofCatalog taleCatalog) roundTrip loads' results') ↔
        results' = results := by
  have hseen : (perform? {} taleDocs keeper 6 0 (ofCatalog taleCatalog) roundTrip).map
      (fun r => (r.1, r.2.map fun r => r.2.place? ⟨"a"⟩)) =
      some ([(2, ⟨"a"⟩)], [some ⟨"S1"⟩, some ⟨"S2"⟩, some ⟨"S2"⟩, some ⟨"S2"⟩]) := by
    decide +kernel
  obtain ⟨⟨loads, results⟩, hperform, hseen⟩ := Option.map_eq_some_iff.1 hseen
  obtain ⟨rfl, hplaces⟩ := Prod.mk.inj hseen
  have hagree : ∀ l ∈ [(2, (⟨"a"⟩ : StoryId))], refuser.load l.1 l.2 = keeper.load l.1 l.2 := by
    simp [refuser, keeper]
  have hperforms := performs_of_perform? hperform
  exact ⟨_, results, hperforms, hagree, hplaces,
    results_over_any_store (by simp [roundTrip, Call.Plays]) hperforms hagree⟩

end App
end Gamebook
