import Gamebook.Proofs.App.Answers
import Gamebook.Proofs.App.Delivery
import Gamebook.Session

/-! Sessions with one call at a time. No gate is closed and the places of readers are kept in memory, so that
every request is answered and no document changes. Then a call has its answer before its session loses
patience: `exists_answer`. -/
namespace Gamebook

namespace Outside

def documents (o : Outside) (path : String) : Except SourceFault Json.Value := (o.fetch path).1

/-- The places of readers are kept in memory, where they may be refused. -/
inductive Remembers (o : Outside) : Prop
  | memory {places : Table StoryId NodeId} {load save : Bool} : o.store = .memory places load save → Remembers o

variable {o : Outside}

theorem fixed_answer (o : Outside) (r : Request) : Fixed o.documents r (o.answer r).1 := by
  cases r <;> first | rfl | trivial

theorem fetch_same (o : Outside) (path : String) :
    (o.fetch path).2.documents = o.documents ∧ (o.fetch path).2.store = o.store := by
  obtain ⟨disk, source, store⟩ := o
  cases source <;> exact ⟨rfl, rfl⟩

theorem savePlace_same (h : o.Remembers) (story : StoryId) (node : NodeId) :
    (o.savePlace story node).2.documents = o.documents ∧ (o.savePlace story node).2.Remembers := by
  obtain ⟨disk, source, store⟩ := o
  obtain ⟨hstore⟩ := h
  subst hstore
  rename_i places load save
  cases save with
  | true => exact ⟨rfl, .memory rfl⟩
  | false =>
    refine ⟨?_, .memory rfl⟩
    cases source <;> rfl

theorem documents_answer (h : o.Remembers) (r : Request) : (o.answer r).2.documents = o.documents := by
  cases r with
  | document path => exact (fetch_same o path).1
  | place story => rfl
  | savePlace story node => exact (savePlace_same h story node).1
  | turn => rfl

theorem Remembers.answer (h : o.Remembers) (r : Request) : (o.answer r).2.Remembers := by
  cases r with
  | document path =>
    obtain ⟨hstore⟩ := h
    exact .memory ((fetch_same o path).2.trans hstore)
  | place story => exact h
  | savePlace story node => exact (savePlace_same h story node).2
  | turn => exact h

/-- Whoever asks for anything but to save a place leaves the store as it is. -/
theorem store_answer {r : Request} (hr : ∀ story node, r ≠ .savePlace story node) :
    (o.answer r).2.store = o.store := by
  cases r with
  | document path => exact (fetch_same o path).2
  | place story => rfl
  | savePlace story node => exact absurd rfl (hr story node)
  | turn => rfl

theorem store_savePlace {places : Table StoryId NodeId} {load : Bool} (h : o.store = .memory places load false)
    (story : StoryId) (node : NodeId) :
    (o.answer (.savePlace story node)).2.store = .memory (places.put story node) load false := by
  show (o.savePlace story node).2.store = _
  rw [savePlace, h]
  rfl

end Outside

namespace Session

open App

variable {c : Settings} {catalog : Catalog} {s : Session} {w : Waiting} {n : Nat}

def replied (c : Settings) (w : Waiting) (s : Session) : Made Session (Progress Waiting Gamebook.Answer) :=
  let answered := s.outside.answer w.request
  let made := App.resume c w answered.1 s.app
  ⟨{ s with app := made.state, outside := answered.2 }, made.notices, made.value⟩

theorem advance_done (n : Nat) (answer : Answer) (s : Session) :
    advance c n (.done answer) s = ⟨s, [], .done answer⟩ := by
  cases n <;> rfl

theorem advance_waiting (h : s.isHeld w.request = false) :
    advance c (n + 1) (.waiting (.player w)) s =
      let next := advance c n ((replied c w s).value.map .player .player) (replied c w s).state
      ⟨next.state, (replied c w s).notices ++ next.notices, next.value⟩ := by
  have h : ¬ s.isHeld (Pending.player w).request = true := Bool.eq_false_iff.1 h
  rw [advance, Act.bind_get, if_neg h]
  simp only [Act.bind_apply, ask, resume, playing, Act.within_apply, Act.pure_apply, List.nil_append,
    List.append_nil]
  rfl

theorem le_patience (s : Session) : 16 ≤ s.patience := Nat.le_add_left ..

theorem call_of_advance (call : Gamebook.Call) (number : Nat) {t : Session} {answer : Answer}
    (h : ∃ notices, advance c s.patience ((App.begin c call s.app).value.map .player .player)
      { s with app := (App.begin c call s.app).state } = ⟨t, notices, .done answer⟩) :
    ∃ notices, Session.call c number (.player call) s = ⟨t, notices, .done answer⟩ := by
  obtain ⟨notices, h⟩ := h
  refine ⟨(App.begin c call s.app).notices ++ notices, ?_⟩
  rw [Session.call, Act.bind_get]
  simp only [Act.bind_apply, begin, playing, Act.within_apply, Act.pure_apply, h, List.append_nil]

variable (c catalog) in
/-- What holds of a session while its only call stands somewhere. All transitions were told, since a player
that does not hear of them is being booted. -/
structure Alone (docs : String → Except SourceFault Json.Value) (s : Session)
    (p : Progress Waiting Gamebook.Answer) : Prop where
  closed : s.closed = []
  documents : s.outside.documents = docs
  remembers : s.outside.Remembers
  aloft : ∃ told queue, Aloft (Fixed docs) c catalog told queue p.pending s.app ∧ ∀ e ∈ told, e.told = true
  stands : s.app.hears = true ∨ BootStands s.app p

theorem seats_of_turn (h : w.request = .turn) : w.seats = 0 := by
  cases w with
  | booting b =>
    match b with
    | .turn _ => rfl
    | .opening (.registry _ _) => cases h
    | .opening (.regions _) => cases h
    | .starting _ => cases h
    | .pumping t =>
      have h : t.inner.request = .turn := h
      cases hinner : t.inner <;> rw [hinner] at h <;> cases h
  | _ => rfl

/-- A call that nothing overlaps need not wait for its turn. -/
theorem ready_of_alone {answers : (r : Request) → r.Reply → Prop} {told : Multiset Taken} {queue : List ScreenChange}
    {a : App} (h : Aloft answers c catalog told queue {w} a) : (protocol c).ready a w = true := by
  show (decide (w.request ≠ .turn) || !a.booting) = true
  by_cases hturn : w.request = .turn
  · have hseats : ({w} : Multiset Waiting).bind Waiting.seats = 0 := by
      rw [Multiset.singleton_bind]
      exact seats_of_turn hturn
    simp [h.seated.booting_eq_false hseats]
  · simp [hturn]

namespace Alone

variable {docs : String → Except SourceFault Json.Value}

theorem isHeld (h : Alone c catalog docs s (.waiting w)) : s.isHeld w.request = false := by
  obtain ⟨told, queue, haloft, -⟩ := h.aloft
  unfold Session.isHeld
  cases hw : w.request with
  | turn =>
    refine haloft.seated.booting_eq_false ?_
    rw [Progress.pending_waiting, Multiset.singleton_bind]
    exact seats_of_turn hw
  | document path => simp [gate?, h.closed]
  | place story => simp [gate?, h.closed]
  | savePlace story node => simp [gate?, h.closed]

theorem ready (h : Alone c catalog docs s (.waiting w)) : (protocol c).ready s.app w = true := by
  obtain ⟨told, queue, haloft, -⟩ := h.aloft
  exact ready_of_alone haloft

theorem told {a b : App} {told : Multiset Taken} (h : ∀ e ∈ told, e.told = true)
    (hreceived : ∀ e ∈ received a b, e.told = true) : ∀ e ∈ ↑(received a b) + told, e.told = true := by
  intro e he
  rcases Multiset.mem_add.1 he with he | he
  · exact hreceived e he
  · exact h e he

theorem of_advanced {a : App} {p : Progress Waiting Gamebook.Answer} {told : Multiset Taken}
    (h : Advanced (Fixed docs) c catalog told 0 a s.app p.pending) (hhears : a.hears = true)
    (htold : ∀ e ∈ told, e.told = true) (hclosed : s.closed = []) (hdocs : s.outside.documents = docs)
    (hremembers : s.outside.Remembers) : Alone c catalog docs s p := by
  obtain ⟨queue, haloft⟩ := h.aloft
  rw [add_zero] at haloft
  have hheard := h.hears hhears
  exact ⟨hclosed, hdocs, hremembers, ⟨_, queue, haloft, Alone.told htold fun e he =>
    (told_of_mem_received he).trans hheard⟩, .inl hheard⟩

theorem of_carried {a : App} {told : Multiset Taken} {made : Made App (Progress Booting (Except LoadFault Unit))}
    (h : Carried (Fixed docs) c catalog told 0 a made) (hstate : made.state = s.app)
    (htold : ∀ e ∈ told, e.told = true) (hclosed : s.closed = []) (hdocs : s.outside.documents = docs)
    (hremembers : s.outside.Remembers) : Alone c catalog docs s (made.value.map .booting .loaded) := by
  obtain ⟨queue, haloft⟩ := h.advanced.aloft
  have hheard := h.heard
  have hstands := h.stands
  rw [add_zero] at haloft
  rw [hstate] at haloft hheard hstands
  exact ⟨hclosed, hdocs, hremembers, ⟨_, queue, haloft, Alone.told htold hheard⟩, .inr hstands⟩

theorem begin {answer : Gamebook.Answer} (h : Alone c catalog docs s (.done answer)) {call : Gamebook.Call}
    (hplays : call.Plays) (hhears : s.app.hears = true) :
    Alone c catalog docs { s with app := (App.begin c call s.app).state } (App.begin c call s.app).value := by
  obtain ⟨told, queue, haloft, htold⟩ := h.aloft
  exact of_advanced (advanced_begin hplays haloft) hhears htold h.closed h.documents h.remembers

theorem replied (h : Alone c catalog docs s (.waiting w)) :
    Alone c catalog docs (replied c w s).state (replied c w s).value := by
  obtain ⟨told, queue, haloft, htold⟩ := h.aloft
  rw [Progress.pending_waiting, ← add_zero ({w} : Multiset Waiting)] at haloft
  have hreply : Fixed docs w.request (s.outside.answer w.request).1 := by
    rw [← h.documents]
    exact Outside.fixed_answer s.outside w.request
  have hdocs : (s.outside.answer w.request).2.documents = docs :=
    (Outside.documents_answer h.remembers w.request).trans h.documents
  have hremembers := h.remembers.answer w.request
  rcases h.stands with hhears | ⟨w', hw⟩ | ⟨result, hresult, -⟩
  · exact of_advanced (advanced_resume haloft h.ready hreply) hhears htold h.closed hdocs hremembers
  · obtain ⟨b, rfl⟩ : ∃ b, w = .booting b := ⟨w', by cases hw; rfl⟩
    exact of_carried (carried_resume haloft (turn_of_ready h.ready) hreply) rfl htold h.closed hdocs hremembers
  · cases hresult

theorem kept {answer : Gamebook.Answer} (h : Alone c catalog docs s (.done answer)) :
    ∃ told, Kept (Fixed docs) c catalog told [] 0 0 s.app ∧ ∀ e ∈ told, e.told = true := by
  obtain ⟨told, queue, haloft, htold⟩ := h.aloft
  obtain ⟨-, rfl, -⟩ := haloft.seated.free_of_booting (haloft.seated.booting_eq_false rfl)
  exact ⟨told, haloft.kept, htold⟩

theorem showsDue {answer : Gamebook.Answer} (h : Alone c catalog docs s (.done answer)) :
    ShowsDue docs c catalog s.app := by
  obtain ⟨told, hkept, htold⟩ := h.kept
  refine showsDue_of_told hkept fun ch hcurrent => (told_or_untold hkept hcurrent).resolve_right fun huntold => ?_
  cases htold _ huntold

end Alone

/-- A player that was not booted yet, and what is outside of it. -/
def fresh (catalog : Catalog) (o : Outside) : Session where
  app := .ofCatalog catalog
  outside := o

/-- A call has its answer, or is bound to get it with fewer than so many further requests. -/
inductive Due (answer : Gamebook.Answer) (n : Nat) : Progress Waiting Gamebook.Answer → Prop
  | done : Due answer n (.done answer)
  | waiting {w : Waiting} : w.Bound → w.outcome = answer → w.requests < n → Due answer n (.waiting w)

theorem due_of_nearer {p : Progress Waiting Gamebook.Answer} (h : Nearer w p) (hn : w.requests ≤ n) :
    Due w.outcome n p := by
  cases h with
  | done => exact .done
  | waiting hbound houtcome hrequests => exact .waiting hbound houtcome (Nat.lt_of_lt_of_le hrequests hn)

theorem due_begin_go {a : App} {registry : Screen.Registry} (hr : a.navigation.registry = some registry)
    {raw : String} {screen : ScreenId}
    (hm : a.navigation.memory.resolve (Screen.Route.ofText c.navigation.aliases raw) registry = .ok screen)
    (hn : 4 ≤ n) : Due (.screen (some screen)) n (App.begin c (.go raw) a).value := by
  have hmoved := (Navigation.moved_go (c := c.navigation) (s := ⟨a.stage, a.navigation⟩) hr hm).value
  have hgo : (navigating (Navigation.follow c.navigation raw) a).value =
    (Navigation.go c.navigation (.ofText c.navigation.aliases raw) ⟨a.stage, a.navigation⟩).value := rfl
  simp only [App.begin, go, Act.bind_apply]
  rcases hmoved with hdone | ⟨f, hwaiting, hscreen⟩
  · rw [hgo, hdone]
    simp only [thenPump, Act.bind_apply, Act.pure_apply, Progress.map_map]
    cases (pump c (navigating (Navigation.follow c.navigation raw) a).state).value with
    | done => exact .done
    | waiting t =>
      exact .waiting trivial rfl (Nat.lt_of_lt_of_le (Mounting.requests_lt_three t.inner) (Nat.le_of_succ_le hn))
  · rw [hgo, hwaiting]
    exact .waiting trivial (by rw [← hscreen]; rfl) hn

theorem answer_saving {docs : String → Except SourceFault Json.Value} {saving : Saving}
    (h : Alone c catalog docs s (.waiting (.saving saving))) (hn : 0 < n) :
    (∃ notices, advance c n (.waiting (.player (.saving saving))) s =
      ⟨(replied c (.saving saving) s).state, notices, .done (.player (.node (some saving.target)))⟩) ∧
      Alone c catalog docs (replied c (.saving saving) s).state (.done (.node (some saving.target))) := by
  have hvalue : (replied c (.saving saving) s).value = .done (.node (some saving.target)) := by
    show (App.resume c (.saving saving) (s.outside.answer saving.request).1 s.app).value = _
    cases (s.outside.answer saving.request).1 <;> rfl
  have halone := h.replied
  rw [hvalue] at halone
  obtain ⟨n, rfl⟩ := Nat.exists_eq_add_one_of_ne_zero (Nat.ne_of_gt hn)
  refine ⟨⟨(replied c (.saving saving) s).notices ++ [], ?_⟩, halone⟩
  rw [advance_waiting h.isHeld, hvalue]
  simp only [Progress.map, advance_done]

/-- The answer comes, and then holds what all steps up to it keep. -/
theorem exists_answer {docs : String → Except SourceFault Json.Value} {I : Session → Prop}
    {answer : Gamebook.Answer}
    (hI : ∀ s w, w.outcome = answer → w.Bound → Alone c catalog docs s (.waiting w) → I s →
      I (replied c w s).state)
    {p : Progress Waiting Gamebook.Answer} (h : Alone c catalog docs s p) (hp : Due answer n p) (hs : I s) :
    ∃ t notices, advance c n (p.map .player .player) s = ⟨t, notices, .done (.player answer)⟩ ∧
      Alone c catalog docs t (.done answer) ∧ I t := by
  induction n generalizing s p with
  | zero =>
    cases hp with
    | done => exact ⟨s, [], rfl, h, hs⟩
    | waiting _ _ hn => exact absurd hn (Nat.not_lt_zero _)
  | succ n ih =>
    cases hp with
    | done => exact ⟨s, [], rfl, h, hs⟩
    | @waiting w hbound houtcome hn =>
      obtain ⟨told, queue, haloft, -⟩ := h.aloft
      rw [Progress.pending_waiting, ← add_zero ({w} : Multiset Waiting)] at haloft
      have hdue := due_of_nearer (nearer_resume haloft hbound (s.outside.answer w.request).1)
        (Nat.le_of_lt_succ hn)
      rw [houtcome] at hdue
      obtain ⟨t, notices, hadvance, halone, ht⟩ := ih h.replied hdue (hI s w houtcome hbound h hs)
      refine ⟨t, (Session.replied c w s).notices ++ notices, ?_, halone, ht⟩
      rw [Progress.map, advance_waiting h.isHeld, hadvance]

section Opened

variable (c catalog) in
def opening (o : Outside) (link : Option String) : Session :=
  { fresh catalog o with app := (App.begin c (.boot link) (.ofCatalog catalog)).state }

variable (c catalog) in
def opened (o : Outside) (link : Option String) : Made Session (Progress Waiting Gamebook.Answer) :=
  replied c (.booting (.opening (.registry c.content.registryPath link))) (opening c catalog o link)

variable {o : Outside} (link : Option String)

theorem alone_opening (h : o.Remembers) : Alone c catalog o.documents (opening c catalog o link)
    (.waiting (.booting (.opening (.registry c.content.registryPath link)))) :=
  .of_carried (carried_boot aloft_start link) rfl (fun _ he => absurd he (Multiset.notMem_zero _)) rfl rfl h

/-- A player without transitions has patience for sixteen requests. -/
theorem call_of_opened (h : o.Remembers) (number : Nat) {t : Session} {answer : Answer}
    (hopened : ∃ notices, advance c 15 ((opened c catalog o link).value.map .player .player)
      (opened c catalog o link).state = ⟨t, notices, .done answer⟩) :
    ∃ notices, Session.call c number (.player (.boot link)) (fresh catalog o) =
      ⟨t, notices, .done answer⟩ := by
  obtain ⟨notices, hopened⟩ := hopened
  have hadvance : advance c (15 + 1)
      (.waiting (.player (.booting (.opening (.registry c.content.registryPath link)))))
      (opening c catalog o link) = ⟨t, (opened c catalog o link).notices ++ notices, .done answer⟩ := by
    rw [advance_waiting (alone_opening link h).isHeld, ← opened, hopened]
  exact call_of_advance (.boot link) number ⟨_, hadvance⟩

variable {screens : Screen.Registry}
variable (hscreens : Screen.Registry.ofReply c.content.registryPath (o.documents c.content.registryPath) = .ok screens)

include hscreens

theorem due_opened : Due (.loaded (.ok ())) 15 (opened c catalog o link).value :=
  have hnearer : Nearer (.booting (.opening (.registry c.content.registryPath link)))
    (opened c catalog o link).value := nearer_registry hscreens link _
  due_of_nearer hnearer (Nat.le_add_left 5 10)

theorem spot_opened : (opened c catalog o link).state.app.spot =
    Spot.moved c.navigation screens (.screen (Navigation.first c.navigation screens link {}))
      ⟨none, some screens, {}, []⟩ := by
  have hstart : (opening c catalog o link).app.spot = ⟨none, none, {}, []⟩ := keeps_boot link (.ofCatalog catalog)
  have hmemory : (opening c catalog o link).app.navigation.memory = {} := congrArg Spot.memory hstart
  have hspot : (opened c catalog o link).state.app.spot = _ :=
    spot_registry hscreens link (opening c catalog o link).app
  rw [hspot, hmemory, hstart]

end Opened

end Session
end Gamebook
