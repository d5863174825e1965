import Gamebook.Proofs.App.Seeks
import Gamebook.Proofs.App.Ways

/-! The graphs that a player keeps. A step keeps the graph of a document that comes to a mount under the url of the
document, and touches no graph beside: `graphs_begin` and `graphs_resume`. A mount that a step leaves to wait is at a
url, the one whose document came or else the one that the catalog has for its story, and the graph that it takes with
it is the one that is kept there: `stands_begin` and `stands_resume`. -/
namespace Gamebook

open Act
open Story (Graph)

def Storybook.rendered? (s : Staged Storybook) : Progress Mounting MountOutcome → Option Graph
  | .done (.rendered _) => s.part.mounted.map (·.graph)
  | _ => none

namespace Mounting.Exchange

def read? (c : StorySettings) : Exchange → Option (String × Graph)
  | ⟨.opening _ url, .ok doc⟩ => some (url, Graph.ofDocument c doc)
  | _ => none

def url? : Exchange → Option String
  | ⟨.opening _ url, _⟩ => some url
  | _ => none

def rendered? (c : StorySettings) (x : Exchange) (s : Staged Storybook) : Option Graph :=
  let made := x.asked.resume c x.reply s
  Storybook.rendered? made.state made.value

theorem asked_of_read? {c : StorySettings} {x : Exchange} {url : String} {graph : Graph}
    (h : x.read? c = some (url, graph)) : ∃ v, x.asked = .opening v url := by
  match x, h with
  | ⟨.opening v _, .ok _⟩, h =>
    cases h
    exact ⟨v, rfl⟩

end Mounting.Exchange

namespace Storybook

def url? (b : Storybook) (story : StoryId) : Option String :=
  (usable? (b.catalog.lookUp? story)).map (·.storyUrl)

/-- The url that a mount is at after a step: the one that was asked for in it, or the one of its story. -/
def at? (came : Option Mounting.Exchange) (b : Storybook) (v : Visit) : Option String :=
  (came.bind (·.url?)).or (b.url? v.story)

end Storybook

/-- How a mount waits after a step. Its document is asked for if no graph is kept at the url that it is at; if one is,
the mount has that graph. -/
inductive Mounting.Stands (came : Option Mounting.Exchange) (b : Storybook) : Mounting → Prop
  | locating {v : Visit} {w : Catalog.Locating} : w.story = v.story → Stands came b (.locating v w)
  | opening {v : Visit} {url : String} : b.at? came v = some url → b.graphs.get? url = none →
      Stands came b (.opening v url)
  | recalling {v : Visit} {url : String} {graph : Graph} : b.at? came v = some url →
      b.graphs.get? url = some graph → Stands came b (.recalling v (some graph))
  | lost {v : Visit} : Stands came b (.recalling v none)

/-- The story that is being located is the one to be mounted. -/
def Mounting.Aimed : Mounting → Prop
  | .locating v w => w.story = v.story
  | _ => True

namespace Catalog

variable {catalog : Catalog} {story : StoryId}

theorem lookUp?_of_found {locator : Option Locator} (h : catalog.found story = .done locator) :
    catalog.lookUp? story = locator := by
  match catalog, h with
  | .fixed locators, h => exact Progress.done.inj h
  | .packs path (some index), h => exact Progress.done.inj h
  | .packs path none, h =>
    simp only [found] at h
    split at h
    · exact Progress.done.inj h
    · cases h

theorem story_of_found {w : Locating} (h : catalog.found story = .waiting w) : w.story = story := by
  match catalog, h with
  | .packs path none, h =>
    simp only [found] at h
    split at h
    · cases h
    · cases h
      rfl

theorem lookUp?_of_resume (w : Locating) (reply : w.request.Reply) {l : Locator}
    (h : (w.resume reply catalog).value = some l) : (w.resume reply catalog).state.lookUp? w.story = some l := by
  match reply, h with
  | .ok doc, h => exact h

end Catalog

namespace Storybook

theorem unpanelled_graphs : Unpanelled fun s => s.part.graphs where
  unmountIfCurrent v s := by
    simp only [unmountIfCurrent, modify_apply]
    split <;> rfl
  unmountExcept _ _ := rfl
  unlocked _ := rfl

theorem keeps_graphs_settle (c : StorySettings) (v : Visit) (graph : Option Graph) (saved : Option NodeId) :
    Keeps (fun s : Staged Storybook => s.part.graphs) (settle c v graph saved) := by
  intro s
  have hsettles := settles_settle c v graph saved s
  generalize settle c v graph saved s = made at hsettles ⊢
  cases hsettles with
  | stale => rfl
  | empty => exact unpanelled_graphs.unmountIfCurrent v s
  | rendered => rfl

theorem rendered?_located (v : Visit) (locator : Option Locator) (s : Staged Storybook) :
    rendered? (located v locator s).state (located v locator s).value = none := by
  have hlocated := located_located v locator s
  generalize located v locator s = made at hlocated ⊢
  cases hlocated with
  | missing => rfl
  | known => rfl
  | opening => rfl

theorem graph_of_settle {c : StorySettings} {v : Visit} {found : Option Graph} {saved : Option NodeId}
    {s : Staged Storybook} {graph : Graph}
    (h : rendered? (settle c v found saved s).state (.done (settle c v found saved s).value) = some graph) :
    found = some graph := by
  have hsettles := settles_settle c v found saved s
  generalize settle c v found saved s = made at hsettles h
  cases hsettles with
  | stale => cases h
  | empty => cases h
  | rendered _ _ hfilled _ =>
    cases h
    exact (Option.filter_eq_some_iff.1 hfilled).1

variable {came : Option Mounting.Exchange}

theorem stands_located {v : Visit} {locator : Option Locator} {s : Staged Storybook}
    (hcame : came.bind (·.url?) = none) (hlocator : ∀ l, locator = some l → s.part.catalog.lookUp? v.story = some l) :
    (located v locator s).value.Each (Mounting.Stands came (located v locator s).state.part) := by
  have hat : ∀ l, usable? locator = some l → s.part.at? came v = some l.storyUrl := by
    intro l hl
    have hsome : locator = some l := (Option.filter_eq_some_iff.1 hl).1
    rw [at?, hcame, Option.none_or, url?, hlocator l hsome, ← hsome, hl]
    rfl
  have hlocated := located_located v locator s
  generalize located v locator s = made at hlocated ⊢
  cases hlocated with
  | missing => exact Progress.each_done _
  | known _ hl hgraph => exact Progress.each_waiting (.recalling (hat _ hl) hgraph)
  | opening _ hl hnone => exact Progress.each_waiting (.opening (hat _ hl) hnone)

theorem stands_mount (hcame : came.bind (·.url?) = none) (v : Visit) :
    Waits (fun s m => Mounting.Stands came s.part m) (mount v) := by
  intro s
  rw [mount_eq]
  cases hfound : s.part.catalog.found v.story with
  | done locator =>
    refine stands_located hcame fun l hl => ?_
    rw [← hl]
    exact Catalog.lookUp?_of_found hfound
  | waiting w => exact Progress.each_waiting (.locating (Catalog.story_of_found hfound))

theorem stands_enter (hcame : came.bind (·.url?) = none) (c : NavigationSettings) (change : ScreenChange) :
    Waits (fun s m => Mounting.Stands came s.part m) (enter c change) := by
  intro s
  have henters := enters_enter c change s
  generalize enter c change s = made at henters ⊢
  cases henters with
  | stale => exact Progress.each_done _
  | plain => exact Progress.each_done _
  | story => exact (stands_mount hcame _ _).map some fun _ h => h

end Storybook

namespace Mounting.Exchange

open Storybook

variable (c : StorySettings) (x : Exchange) (s : Staged Storybook)

/-- A document that comes is kept under its url, and no other graph is touched. -/
theorem graphs_resume : (x.asked.resume c x.reply s).state.part.graphs =
    match x.read? c with
    | some (url, graph) => s.part.graphs.put url graph
    | none => s.part.graphs := by
  match x with
  | ⟨.locating v w, reply⟩ => exact unpanelled_graphs.located v _ _
  | ⟨.opening v url, .error cause⟩ => rfl
  | ⟨.opening v url, .ok doc⟩ =>
    obtain ⟨notices, heq⟩ := Mounting.resume_opening c v url doc s
    simp only [heq, read?]
  | ⟨.recalling v graph, .error cause⟩ => exact keeps_graphs_settle c v graph none s
  | ⟨.recalling v graph, .ok saved⟩ => exact keeps_graphs_settle c v graph saved s

/-- Only a mount that was located, or not, or that shows its story can be over. -/
theorem url?_of_done {outcome : MountOutcome} (h : (x.asked.resume c x.reply s).value = .done outcome) :
    x.url? = none := by
  match x, h with
  | ⟨.locating v w, reply⟩, _ => rfl
  | ⟨.opening v url, .error cause⟩, h => cases h
  | ⟨.opening v url, .ok doc⟩, h =>
    obtain ⟨notices, heq⟩ := Mounting.resume_opening c v url doc s
    rw [heq] at h
    cases h
  | ⟨.recalling v graph, _⟩, _ => rfl

theorem stands_resume (haimed : x.asked.Aimed) :
    (x.asked.resume c x.reply s).value.Each (Stands (some x) (x.asked.resume c x.reply s).state.part) := by
  match x, haimed with
  | ⟨.locating v w, reply⟩, haimed =>
    refine stands_located rfl fun l hl => ?_
    rw [← haimed]
    exact Catalog.lookUp?_of_resume w reply hl
  | ⟨.opening v url, .error cause⟩, _ => exact Progress.each_waiting .lost
  | ⟨.opening v url, .ok doc⟩, _ =>
    obtain ⟨notices, heq⟩ := Mounting.resume_opening c v url doc s
    rw [heq]
    exact Progress.each_waiting (.recalling rfl (Table.get?_put_self ..))
  | ⟨.recalling v graph, .error cause⟩, _ => exact Progress.each_done _
  | ⟨.recalling v graph, .ok saved⟩, _ => exact Progress.each_done _

theorem asked_of_rendered? {graph : Graph} (h : x.rendered? c s = some graph) :
    ∃ v, x.asked = .recalling v (some graph) := by
  match x, h with
  | ⟨.locating v w, reply⟩, h => exact absurd ((rendered?_located v _ _).symm.trans h) nofun
  | ⟨.opening v url, .error cause⟩, h => cases h
  | ⟨.opening v url, .ok doc⟩, h =>
    obtain ⟨notices, heq⟩ := Mounting.resume_opening c v url doc s
    simp only [rendered?, heq] at h
    cases h
  | ⟨.recalling v found, .error cause⟩, h => exact ⟨v, congrArg (Mounting.recalling v) (graph_of_settle h)⟩
  | ⟨.recalling v found, .ok saved⟩, h => exact ⟨v, congrArg (Mounting.recalling v) (graph_of_settle h)⟩

end Mounting.Exchange

namespace Waiting

def mount? : Waiting → Option Mounting
  | .booting (.pumping t) => some t.inner
  | .going (.pumping _ t) => some t.inner
  | .tapping (.pumping _ t) => some t.inner
  | .pumping t => some t.inner
  | .entering m => some m
  | .mounting m => some m
  | .notifying t => some t.inner
  | _ => none

theorem mount?_of_mounting? {w : Waiting} {reply : w.request.Reply} {x : Mounting.Exchange}
    (h : w.mounting? reply = some x) : w.mount? = some x.asked := by
  match w, reply, h with
  | .booting (.pumping _), _, rfl => rfl
  | .going (.pumping _ _), _, rfl => rfl
  | .tapping (.pumping _ _), _, rfl => rfl
  | .pumping _, _, rfl => rfl
  | .entering _, _, rfl => rfl
  | .mounting _, _, rfl => rfl
  | .notifying _, _, rfl => rfl

/-- If a call waits for a mount, it stands as a step left it. -/
def Stands (came : Option Mounting.Exchange) (a : App) (w : Waiting) : Prop :=
  ∀ m, w.mount? = some m → m.Stands came a.storybook

variable {came : Option Mounting.Exchange} {a : App}

theorem stands_of_none {w : Waiting} (h : w.mount? = none) : w.Stands came a := by
  intro m hm
  rw [h] at hm
  cases hm

theorem stands_of_some {w : Waiting} {m : Mounting} (hm : w.mount? = some m) (h : m.Stands came a.storybook) :
    w.Stands came a := by
  intro m' hm'
  obtain rfl := Option.some.inj (hm.symm.trans hm')
  exact h

end Waiting

namespace App

variable {c : Settings}

theorem aside_graphs (c : Settings) : Aside c fun a => a.storybook.graphs where
  taken _ _ := rfl
  enter change a := Storybook.unpanelled_graphs.enter c.navigation change a.stories
  roster _ _ := rfl
  catalog _ _ := rfl
  boots _ _ _ := rfl

theorem travels_graphs : Travels c fun a b => b.storybook.graphs = a.storybook.graphs where
  toLaunches := (aside_graphs c).launches
  went _ := rfl
  settle _ _ _ := rfl
  mount v a := Storybook.unpanelled_graphs.mount v a.stories
  fit _ _ _ := rfl
  loaded _ _ := rfl

theorem graphs_begin (call : Call) (a : App) : (begin c call a).state.storybook.graphs = a.storybook.graphs := by
  rcases travels_graphs.begin (c := c) call a with h | ⟨made, hchooses, hb⟩
  · exact h
  · rw [hb]
    cases hchooses with
    | nothing => rfl
    | selects hselects =>
      cases hselects with
      | nothing => rfl
      | chosen => rfl

theorem graphs_resume (w : Waiting) (reply : w.request.Reply) (a : App) :
    (resume c w reply a).state.storybook.graphs =
      match (w.mounting? reply).bind (·.read? c.story) with
      | some (url, graph) => a.storybook.graphs.put url graph
      | none => a.storybook.graphs := by
  cases travels_graphs.resume (c := c) w reply a with
  | along hnone h =>
    rw [hnone]
    exact h
  | mounted x hx h =>
    rw [hx]
    exact h.trans (x.graphs_resume c.story a.stories)
  | saved s r _ hnone hb =>
    rw [hnone, hb]
    exact congrArg (fun s : Staged Storybook => s.part.graphs) (s.resume_state r a.stories)

section Fresh

variable {came : Option Mounting.Exchange} (hcame : came.bind (·.url?) = none)

include hcame

theorem stands_entering (change : ScreenChange) :
    Waits (fun a m => Mounting.Stands came a.storybook m) (reading (Storybook.enter c.navigation change)) :=
  fun a => Storybook.stands_enter hcame c.navigation change a.stories

theorem stands_tell (change : ScreenChange) (who : Collaborator) :
    Waits (fun a m => Mounting.Stands came a.storybook m) ((crew c).tell who change) := by
  cases who with
  | catalog => exact .done ()
  | story => exact (stands_entering hcame change).map fun _ _ h => h

theorem stands_round (change : ScreenChange) (positions : List Nat) :
    Waits (fun a (t : Telling) => t.inner.Stands came a.storybook) ((crew c).round change positions) :=
  (crew c).waits_round (stands_tell hcame change) positions

theorem stands_resumeRound (t : Telling) :
    Waits (fun a (t : Telling) => t.inner.Stands came a.storybook) ((crew c).resumeRound t) :=
  .bind fun _ => stands_round hcame t.change _

theorem stands_notify (change : ScreenChange) :
    Waits (fun a (t : Telling) => t.inner.Stands came a.storybook) (notify c change) :=
  .bind fun _ => stands_round hcame change _

theorem stands_deliver (receipts : List Receipt) :
    Waits (fun a (t : Telling) => t.inner.Stands came a.storybook) (deliver c receipts) := by
  induction receipts with
  | nil => exact .done ()
  | cons receipt rest ih =>
    refine .bind fun _ => ?_
    cases receipt with
    | missed count => exact .bind fun _ => ih
    | change change => exact (stands_notify hcame change).bind_progress (fun _ => ih) (fun _ => rfl) fun _ _ h => h

theorem stands_pump : Waits (fun a (t : Telling) => t.inner.Stands came a.storybook) (pump c) :=
  .bind fun _ => stands_deliver hcame _

theorem stands_bootStarted (failed : Nat) :
    Waits (fun a w => (Waiting.booting w).Stands came a) (bootStarted c failed) := by
  unfold bootStarted
  dsimp only
  split
  on_goal 1 => refine .bind fun _ => ?_
  all_goals
    exact (stands_pump hcame).bind_progress (fun _ => waits_ready) (fun _ => rfl)
      fun _ _ h => Waiting.stands_of_some rfl h

theorem stands_bootOpened (result : Except LoadFault Unit) :
    Waits (fun a w => (Waiting.booting w).Stands came a) (bootOpened c result) := by
  cases result with
  | error cause => exact .bind fun _ => .bind fun _ => .done _
  | ok =>
    exact .bind_any (stands_bootStarted hcame) (fun _ => rfl) fun _ _ => Waiting.stands_of_none rfl

theorem stands_takeTurn (link : Option String) :
    Waits (fun a w => (Waiting.booting w).Stands came a) (takeTurn c link) := by
  refine .bind fun a => ?_
  split
  · exact .done _
  · refine .bind fun _ => .bind_any (stands_bootOpened hcame) (fun _ => rfl) fun _ _ => ?_
    exact Waiting.stands_of_none rfl

theorem stands_boot (link : Option String) :
    Waits (fun a w => (Waiting.booting w).Stands came a) (boot c link) := by
  refine .bind fun a => ?_
  split
  · exact .waiting fun _ => Waiting.stands_of_none rfl
  · exact stands_takeTurn hcame link

theorem stands_thenPump (screen : Option ScreenId) :
    Waits (fun a w => (Waiting.going w).Stands came a) (thenPump c screen) :=
  (stands_pump hcame).map fun _ _ h => Waiting.stands_of_some rfl h

theorem stands_go (raw : String) : Waits (fun a w => (Waiting.going w).Stands came a) (go c raw) :=
  .bind_any (stands_thenPump hcame) (fun _ => rfl) fun _ _ => Waiting.stands_of_none rfl

theorem stands_thenPumpTap (outcome : PointerOutcome) :
    Waits (fun a w => (Waiting.tapping w).Stands came a) (thenPumpTap c outcome) :=
  (stands_pump hcame).map fun _ _ h => Waiting.stands_of_some rfl h

theorem stands_tap (p : Stage.Point) : Waits (fun a w => (Waiting.tapping w).Stands came a) (tap c p) := by
  refine .bind fun a => ?_
  split
  · exact .of_forall fun _ _ => Waiting.stands_of_none rfl
  · exact .bind_any (stands_thenPumpTap hcame) (fun _ => rfl) fun _ _ => Waiting.stands_of_none rfl

end Fresh

theorem stands_begin (call : Call) : Waits (fun a w => w.Stands none a) (begin c call) := by
  cases call with
  | boot link => exact (stands_boot rfl link).map fun _ _ h => h
  | go raw => exact (stands_go rfl raw).map fun _ _ h => h
  | tap p => exact (stands_tap rfl p).map fun _ _ h => h
  | pump => exact (stands_pump rfl).map fun _ _ h => Waiting.stands_of_some rfl h
  | notify change => exact (stands_notify rfl change).map fun _ _ h => Waiting.stands_of_some rfl h
  | enter change => exact (stands_entering rfl change).map fun _ _ h => Waiting.stands_of_some rfl h
  | mount v =>
    have hmount : Waits (fun a m => Mounting.Stands none a.storybook m) (reading (Storybook.mount v)) :=
      fun a => Storybook.stands_mount rfl v a.stories
    exact hmount.map fun _ _ h => Waiting.stands_of_some rfl h
  | fit w => exact .waiting fun _ => Waiting.stands_of_none rfl
  | _ => exact .of_forall fun _ _ => Waiting.stands_of_none rfl

section Told

variable (t : Telling) (reply : t.request.Reply)

theorem url?_of_told {a : App} (h : (resumeNotify c t reply a).value = .done ()) :
    (Mounting.Exchange.mk t.inner reply).url? = none := by
  simp only [resumeNotify, bind_apply] at h
  cases hvalue : (reading (t.inner.resume c.story reply) a).value with
  | done outcome => exact Mounting.Exchange.url?_of_done c.story ⟨t.inner, reply⟩ a.stories hvalue
  | waiting inner =>
    rw [hvalue] at h
    cases h

variable (haimed : t.inner.Aimed)

include haimed

theorem stands_resumeNotify :
    Waits (fun a (t' : Telling) => t'.inner.Stands (some ⟨t.inner, reply⟩) a.storybook) (resumeNotify c t reply) := by
  intro a
  have hmount : (reading (t.inner.resume c.story reply) a).value.Each
      (Mounting.Stands (some ⟨t.inner, reply⟩) (reading (t.inner.resume c.story reply) a).state.storybook) :=
    Mounting.Exchange.stands_resume c.story ⟨t.inner, reply⟩ a.stories haimed
  simp only [resumeNotify, bind_apply]
  cases hvalue : (reading (t.inner.resume c.story reply) a).value with
  | done outcome =>
    have hcame : (some (Mounting.Exchange.mk t.inner reply)).bind (·.url?) = none :=
      Mounting.Exchange.url?_of_done c.story ⟨t.inner, reply⟩ a.stories hvalue
    exact stands_resumeRound hcame t _
  | waiting inner => exact Progress.each_waiting (hmount.of_eq hvalue)

theorem stands_resumePump :
    Waits (fun a (t' : Telling) => t'.inner.Stands (some ⟨t.inner, reply⟩) a.storybook) (resumePump c t reply) := by
  intro a
  have hnotify := stands_resumeNotify t reply haimed (c := c) a
  simp only [resumePump, bind_apply]
  cases hvalue : (resumeNotify c t reply a).value with
  | done =>
    have hcame : (some (Mounting.Exchange.mk t.inner reply)).bind (·.url?) = none := url?_of_told t reply hvalue
    exact stands_pump hcame _
  | waiting t' => exact Progress.each_waiting (hnotify.of_eq hvalue)

end Told

theorem stands_booting (w : Booting) (reply : w.request.Reply)
    (haimed : ∀ m, (Waiting.booting w).mount? = some m → m.Aimed) :
    Waits (fun a w' => (Waiting.booting w').Stands ((Waiting.booting w).mounting? reply) a) (w.resume c reply) := by
  match w, reply, haimed with
  | .turn link, (), _ => exact stands_takeTurn rfl link
  | .opening w, reply, _ =>
    exact .bind_any (stands_bootOpened rfl) (fun _ => rfl) fun _ _ => Waiting.stands_of_none rfl
  | .starting w, reply, _ =>
    exact .bind_any (stands_bootStarted rfl) (fun _ => rfl) fun _ _ => Waiting.stands_of_none rfl
  | .pumping t, reply, haimed =>
    exact (stands_resumePump t reply (haimed _ rfl)).bind_progress (fun _ => waits_ready) (fun _ => rfl)
      fun _ _ h => Waiting.stands_of_some rfl h

theorem stands_going (w : Going) (reply : w.request.Reply)
    (haimed : ∀ m, (Waiting.going w).mount? = some m → m.Aimed) :
    Waits (fun a w' => (Waiting.going w').Stands ((Waiting.going w).mounting? reply) a) (w.resume c reply) := by
  match w, reply, haimed with
  | .following w, reply, _ => exact .bind fun _ => stands_thenPump rfl _
  | .pumping screen t, reply, haimed =>
    exact (stands_resumePump t reply (haimed _ rfl)).map fun _ _ h => Waiting.stands_of_some rfl h

theorem stands_tapping (w : Tapping) (reply : w.request.Reply)
    (haimed : ∀ m, (Waiting.tapping w).mount? = some m → m.Aimed) :
    Waits (fun a w' => (Waiting.tapping w').Stands ((Waiting.tapping w).mounting? reply) a) (w.resume c reply) := by
  match w, reply, haimed with
  | .choosing w, reply, _ => exact .bind fun _ => .done _
  | .dispatching w, reply, _ => exact .bind fun _ => stands_thenPumpTap rfl _
  | .pumping outcome t, reply, haimed =>
    exact (stands_resumePump t reply (haimed _ rfl)).map fun _ _ h => Waiting.stands_of_some rfl h

theorem stands_reading (m : Mounting) (reply : m.request.Reply) (haimed : m.Aimed) :
    Waits (fun a m' => Mounting.Stands (some ⟨m, reply⟩) a.storybook m') (reading (m.resume c.story reply)) :=
  fun a => Mounting.Exchange.stands_resume c.story ⟨m, reply⟩ a.stories haimed

theorem stands_resume (w : Waiting) (reply : w.request.Reply) (haimed : ∀ m, w.mount? = some m → m.Aimed) :
    Waits (fun a w' => w'.Stands (w.mounting? reply) a) (resume c w reply) := by
  match w, reply, haimed with
  | .booting w, reply, haimed => exact (stands_booting w reply haimed).map fun _ _ h => h
  | .going w, reply, haimed => exact (stands_going w reply haimed).map fun _ _ h => h
  | .tapping w, reply, haimed => exact (stands_tapping w reply haimed).map fun _ _ h => h
  | .pumping t, reply, haimed =>
    exact (stands_resumePump t reply (haimed _ rfl)).map fun _ _ h => Waiting.stands_of_some rfl h
  | .notifying t, reply, haimed =>
    exact (stands_resumeNotify t reply (haimed _ rfl)).map fun _ _ h => Waiting.stands_of_some rfl h
  | .entering m, reply, haimed =>
    exact (stands_reading m reply (haimed _ rfl)).map fun _ _ h => Waiting.stands_of_some rfl h
  | .mounting m, reply, haimed =>
    exact (stands_reading m reply (haimed _ rfl)).map fun _ _ h => Waiting.stands_of_some rfl h
  | .opening w, reply, _ => exact .of_forall fun _ _ => Waiting.stands_of_none rfl
  | .starting w, reply, _ => exact .of_forall fun _ _ => Waiting.stands_of_none rfl
  | .following w, reply, _ => exact .bind fun _ => .done _
  | .dispatching w, reply, _ => exact .bind fun _ => .done _
  | .fitting w, reply, _ => exact .bind fun _ => .done _
  | .preloading w, reply, _ => exact .bind fun _ => .done _
  | .locating w, reply, _ => exact .bind fun _ => .done _
  | .saving w, reply, _ => exact .bind fun _ => .done _
  | .retrying w, reply, _ => exact .bind fun _ => .done _

end App
end Gamebook
