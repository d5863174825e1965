import Gamebook.Proofs.App.Flights
import Gamebook.Proofs.App.Graphs
import Gamebook.Proofs.App.Panel
import Gamebook.Proofs.Trace

/-! The documents that the stories of a player are read from. A mount asks for a document only if no graph is kept at
its url, but what comes is kept whatever was kept there meanwhile. So each document is read once, no graph is ever
replaced, and all mounts of a url show the same graph, exactly as long as no two calls that wait for the document of
a url at the same time are both given it. -/
namespace Gamebook.App

open Story (Graph)

section Events

variable {c : Settings} {catalog : Catalog} {allowed : Call → Prop} {answers : (r : Request) → r.Reply → Prop}
variable {es : List (protocol c).Event} {e : (protocol c).Event} {f : (protocol c).Flight}

def mounting? (e : (protocol c).Event) : Option Mounting.Exchange :=
  e.exchange?.bind fun x => x.asked.mounting? x.reply

def mount? (f : (protocol c).Flight) (number : Nat) : Option Mounting :=
  f.courses[number]?.bind fun course =>
    match course.standing with
    | .done _ => none
    | .waiting w => w.mount?

def read? (e : (protocol c).Event) : Option (String × Graph) := (mounting? e).bind (·.read? c.story)

def urls (es : List (protocol c).Event) : List String := es.filterMap fun e => (read? e).map (·.1)

/-- The url that the mount of a call is at, which the last step of the call decides. -/
def url? : List (protocol c).Event → Nat → Option String
  | [], _ => none
  | e :: es, number =>
    if number = e.number then
      (mount? e.after number).bind fun m => e.after.state.storybook.at? (mounting? e) m.visit
    else url? es number

def rendered? (e : (protocol c).Event) : Option Graph :=
  (mounting? e).bind fun x => x.rendered? c.story e.before.state.stories

/-- The graphs that mounts showed their stories with, each beside the url that the mount was at, the last one first. -/
def renderings : List (protocol c).Event → List (Option String × Graph)
  | [] => []
  | e :: es => ((rendered? e).map fun graph => (url? es e.number, graph)).toList ++ renderings es

/-- A story document comes to another call while the call of a number waits for it. -/
def Forestalled (es : List (protocol c).Event) (number : Nat) (v : Visit) (url : String) : Prop :=
  ∃ e ∈ es, (read? e).map (·.1) = some url ∧ e.number ≠ number ∧
    mount? e.before number = some (.opening v url)

/-- Two calls are given a story document, of which one waited for it when it came to the other. -/
def Raced (es : List (protocol c).Event) : Prop :=
  ∃ e ∈ es, ∃ v url, (read? e).map (·.1) = some url ∧ Forestalled es e.number v url

/-- Every story document is read once, the graph that is kept of it is never replaced, and whatever mount shows its
story shows the graph that is kept at its url. -/
structure AppendOnly (es : List (protocol c).Event) (f : (protocol c).Flight) : Prop where
  once : (urls es).Nodup
  kept : ∀ e ∈ es, ∀ url graph, e.before.state.storybook.graphs.get? url = some graph →
    e.after.state.storybook.graphs.get? url = some graph
  same : ∀ r ∈ renderings es, ∃ url, r.1 = some url ∧ f.state.storybook.graphs.get? url = some r.2

theorem waiting_of_mount? {number : Nat} {m : Mounting} (h : mount? f number = some m) :
    ∃ course w, f.courses[number]? = some course ∧ course.standing = .waiting w ∧ w.mount? = some m := by
  obtain ⟨course, hcourse, h⟩ := Option.bind_eq_some_iff.1 h
  cases hstanding : course.standing with
  | done answer =>
    rw [hstanding] at h
    cases h
  | waiting w =>
    rw [hstanding] at h
    exact ⟨course, w, hcourse, hstanding, h⟩

theorem mount?_of_ne (he : e.Happens allowed answers) {number : Nat} (hne : number ≠ e.number) :
    mount? e.after number = mount? e.before number := by
  simp only [mount?, he.courses_of_ne hne]

theorem mount?_before (he : e.Happens allowed answers) {x : Mounting.Exchange} (hx : mounting? e = some x) :
    mount? e.before e.number = some x.asked := by
  cases he with
  | begin f ha => cases hx
  | @resume s before after course w reply hw hready hreply =>
    have hmounting : w.mounting? reply = some x := hx
    simpa [mount?, Protocol.Event.resumed, hw] using Waiting.mount?_of_mounting? hmounting

theorem mount?_of_read? (he : e.Happens allowed answers) {url : String} {graph : Graph}
    (hread : read? e = some (url, graph)) : ∃ v, mount? e.before e.number = some (.opening v url) := by
  obtain ⟨x, hx, hread⟩ := Option.bind_eq_some_iff.1 hread
  obtain ⟨v, hasked⟩ := Mounting.Exchange.asked_of_read? hread
  exact ⟨v, (mount?_before he hx).trans (congrArg some hasked)⟩

theorem graphs_of_happens (he : e.Happens allowed answers) : e.after.state.storybook.graphs =
    match read? e with
    | some (url, graph) => e.before.state.storybook.graphs.put url graph
    | none => e.before.state.storybook.graphs := by
  cases he with
  | begin f ha => exact graphs_begin _ _
  | resume reply hw hready hreply => exact graphs_resume _ reply _

theorem stands_of_happens (he : e.Happens allowed answers) (haimed : ∀ m, mount? e.before e.number = some m → m.Aimed)
    {m : Mounting} (hm : mount? e.after e.number = some m) : m.Stands (mounting? e) e.after.state.storybook := by
  obtain ⟨course, w', hcourse, hw', hm'⟩ := waiting_of_mount? hm
  cases he with
  | @begin f call ha =>
    obtain rfl := Option.some.inj ((Protocol.Event.course?_begun (P := protocol c) f call).symm.trans hcourse)
    exact (stands_begin call f.state).of_eq hw' m hm'
  | @resume s before after course₀ w reply hw hready hreply =>
    obtain rfl := Option.some.inj
      ((Protocol.Event.course?_resumed (P := protocol c) s before course₀ after w reply).symm.trans hcourse)
    refine (stands_resume w reply (fun m₀ hm₀ => haimed m₀ ?_) s).of_eq hw' m hm'
    simpa [mount?, Protocol.Event.resumed, hw] using hm₀

theorem get?_of_happens (he : e.Happens allowed answers) {url : String}
    (hfresh : (read? e).map (·.1) ≠ some url) :
    e.after.state.storybook.graphs.get? url = e.before.state.storybook.graphs.get? url := by
  rw [graphs_of_happens he]
  cases hread : read? e with
  | none => rfl
  | some found =>
    rw [hread] at hfresh
    exact Table.get?_put_of_ne _ _ fun heq => hfresh (congrArg some heq)

theorem contains_of_happens (he : e.Happens allowed answers) (url : String) :
    e.after.state.storybook.graphs.contains url = true ↔
      (read? e).map (·.1) = some url ∨ e.before.state.storybook.graphs.contains url = true := by
  by_cases hfresh : (read? e).map (·.1) = some url
  · obtain ⟨⟨_, graph⟩, hread, rfl⟩ := Option.map_eq_some_iff.1 hfresh
    simp [Table.contains, graphs_of_happens he, hread]
  · simp only [Table.contains, get?_of_happens he hfresh, hfresh, false_or]

theorem urls_cons (e : (protocol c).Event) (es : List (protocol c).Event) :
    urls (e :: es) = ((read? e).map (·.1)).toList ++ urls es := by
  cases hread : read? e <;> simp [urls, hread]

theorem nodup_urls_of_cons (h : (urls (e :: es)).Nodup) : (urls es).Nodup := by
  rw [urls_cons] at h
  exact h.of_append_right

/-- A graph is kept at the urls whose documents came, and at no others. -/
theorem contains_iff_mem_urls (h : (protocol c).Trace allowed answers ⟨ofCatalog catalog, []⟩ es f) (url : String) :
    f.state.storybook.graphs.contains url = true ↔ url ∈ urls es := by
  induction h with
  | start => exact ⟨nofun, fun h => absurd h List.not_mem_nil⟩
  | @step es e _ he ih => rw [contains_of_happens he, urls_cons, List.mem_append, Option.mem_toList, ih]

theorem fresh_of_nodup (h : (protocol c).Trace allowed answers ⟨ofCatalog catalog, []⟩ es e.before)
    (hnodup : (urls (e :: es)).Nodup) {url : String} {graph : Graph}
    (hget : e.before.state.storybook.graphs.get? url = some graph) : (read? e).map (·.1) ≠ some url := by
  intro hread
  have hmem : url ∈ urls es := (contains_iff_mem_urls h url).1 (by simp [Table.contains, hget])
  rw [urls_cons, hread] at hnodup
  exact (List.nodup_cons.1 hnodup).1 hmem

theorem get?_of_nodup (h : (protocol c).Trace allowed answers ⟨ofCatalog catalog, []⟩ es e.before)
    (he : e.Happens allowed answers) (hnodup : (urls (e :: es)).Nodup) {url : String} {graph : Graph}
    (hget : e.before.state.storybook.graphs.get? url = some graph) :
    e.after.state.storybook.graphs.get? url = some graph :=
  (get?_of_happens he (fresh_of_nodup h hnodup hget)).trans hget

/-- How a mount waits at any time: for a document, of which there is no graph unless it has come to another call
meanwhile; or with a graph, which is kept at its url unless a document was read twice. -/
inductive Placed (es : List (protocol c).Event) (f : (protocol c).Flight) (number : Nat) : Mounting → Prop
  | locating {v : Visit} {w : Catalog.Locating} : w.story = v.story → Placed es f number (.locating v w)
  | opening {v : Visit} {url : String} :
      (f.state.storybook.graphs.contains url = true → Forestalled es number v url) →
      Placed es f number (.opening v url)
  | recalling {v : Visit} {url : String} {graph : Graph} : url? es number = some url →
      ((urls es).Nodup → f.state.storybook.graphs.get? url = some graph) →
      Placed es f number (.recalling v (some graph))
  | lost {v : Visit} : Placed es f number (.recalling v none)

theorem Placed.aimed {number : Nat} {m : Mounting} (h : Placed es f number m) : m.Aimed := by
  cases h with
  | locating hstory => exact hstory
  | opening => trivial
  | recalling => trivial
  | lost => trivial

theorem placed_of_trace (h : (protocol c).Trace allowed answers ⟨ofCatalog catalog, []⟩ es f) (number : Nat)
    {m : Mounting} (hm : mount? f number = some m) : Placed es f number m := by
  induction h generalizing number m with
  | start => cases hm
  | @step es e hbefore he ih =>
    by_cases hnumber : number = e.number
    · -- the call has taken the step
      subst hnumber
      have hurl : url? (e :: es) e.number = e.after.state.storybook.at? (mounting? e) m.visit := by
        rw [url?, if_pos rfl, hm]
        rfl
      cases stands_of_happens he (fun m₀ hm₀ => (ih e.number hm₀).aimed) hm with
      | locating hstory => exact .locating hstory
      | opening _ hnone => exact .opening fun hcontains => by simp [Table.contains, hnone] at hcontains
      | recalling hat hget => exact .recalling (hurl.trans hat) fun _ => hget
      | lost => exact .lost
    · -- another call has taken it
      have hbefore_mount : mount? e.before number = some m := (mount?_of_ne he hnumber).symm.trans hm
      cases ih number hbefore_mount with
      | locating hstory => exact .locating hstory
      | @opening v url hforestalled =>
        refine .opening fun hcontains => ?_
        rcases (contains_of_happens he url).1 hcontains with hread | hearlier
        · exact ⟨e, List.mem_cons_self, hread, fun heq => hnumber heq.symm, hbefore_mount⟩
        · obtain ⟨e', he', hrest⟩ := hforestalled hearlier
          exact ⟨e', List.mem_cons_of_mem e he', hrest⟩
      | recalling hurl hget =>
        refine .recalling (by rw [url?, if_neg hnumber]; exact hurl) fun hnodup => ?_
        exact get?_of_nodup hbefore he hnodup (hget (nodup_urls_of_cons hnodup))
      | lost => exact .lost

theorem exists_url_of_rendered (h : (protocol c).Trace allowed answers ⟨ofCatalog catalog, []⟩ es e.before)
    (he : e.Happens allowed answers) {graph : Graph} (hrendered : rendered? e = some graph) :
    ∃ url, url? es e.number = some url ∧
      ((urls es).Nodup → e.before.state.storybook.graphs.get? url = some graph) := by
  obtain ⟨x, hx, hrendered⟩ := Option.bind_eq_some_iff.1 hrendered
  obtain ⟨v, hasked⟩ := Mounting.Exchange.asked_of_rendered? c.story x e.before.state.stories hrendered
  have hmount : mount? e.before e.number = some (.recalling v (some graph)) :=
    (mount?_before he hx).trans (congrArg some hasked)
  cases placed_of_trace h e.number hmount with
  | recalling hurl hget => exact ⟨_, hurl, hget⟩

theorem AppendOnly.of_nodup (h : (protocol c).Trace allowed answers ⟨ofCatalog catalog, []⟩ es f)
    (hnodup : (urls es).Nodup) : AppendOnly es f := by
  induction h with
  | start => exact ⟨hnodup, fun e he => absurd he List.not_mem_nil, fun r h => absurd h List.not_mem_nil⟩
  | @step es e hbefore he ih =>
    have hearlier := nodup_urls_of_cons hnodup
    obtain ⟨-, hkept, hsame⟩ := ih hearlier
    refine ⟨hnodup, List.forall_mem_cons.2 ⟨fun url graph => get?_of_nodup hbefore he hnodup, hkept⟩, ?_⟩
    intro r hr
    rcases List.mem_append.1 hr with hnow | hpast
    · obtain ⟨graph, hrendered, rfl⟩ := Option.map_eq_some_iff.1 (Option.mem_toList.1 hnow)
      obtain ⟨url, hurl, hget⟩ := exists_url_of_rendered hbefore he hrendered
      exact ⟨url, hurl, get?_of_nodup hbefore he hnodup (hget hearlier)⟩
    · obtain ⟨url, hurl, hget⟩ := hsame r hpast
      exact ⟨url, hurl, get?_of_nodup hbefore he hnodup hget⟩

/-- A document that is read again comes to a call that waited for it when it came to another. -/
theorem nodup_of_not_raced (h : (protocol c).Trace allowed answers ⟨ofCatalog catalog, []⟩ es f)
    (hraced : ¬ Raced es) : (urls es).Nodup := by
  induction h with
  | start => exact List.nodup_nil
  | @step es e hbefore he ih =>
    have hearlier : (urls es).Nodup := by
      refine ih fun hearlier => hraced ?_
      obtain ⟨e₁, he₁, v, url, hread, e₂, he₂, hrest⟩ := hearlier
      exact ⟨e₁, List.mem_cons_of_mem e he₁, v, url, hread, e₂, List.mem_cons_of_mem e he₂, hrest⟩
    rw [urls_cons]
    cases hread : read? e with
    | none => exact hearlier
    | some found =>
      obtain ⟨url, graph⟩ := found
      refine List.nodup_cons.2 ⟨fun hmem => hraced ?_, hearlier⟩
      obtain ⟨v, hmount⟩ := mount?_of_read? he hread
      cases placed_of_trace hbefore e.number hmount with
      | opening hforestalled =>
        obtain ⟨e', he', hrest⟩ := hforestalled ((contains_iff_mem_urls hbefore url).2 hmem)
        exact ⟨e, List.mem_cons_self, v, url, by rw [hread]; rfl, e', List.mem_cons_of_mem e he', hrest⟩

theorem mem_urls {url : String} (he : e ∈ es) (hread : (read? e).map (·.1) = some url) : url ∈ urls es :=
  List.mem_filterMap.2 ⟨e, he, hread⟩

/-- Two calls that are given a document read it twice. -/
theorem Raced.not_nodup (h : Raced es) : ¬ (urls es).Nodup := by
  obtain ⟨e, he, v, url, hread, e', he', hread', hnumber, -⟩ := h
  obtain ⟨later, earlier, rfl⟩ := List.append_of_mem he
  have hmem : url ∈ urls later ++ urls earlier := by
    rcases List.mem_append.1 he' with hlater | hrest
    · exact List.mem_append_left _ (mem_urls hlater hread')
    · rcases List.mem_cons.1 hrest with rfl | hearlier
      · exact absurd rfl hnumber
      · exact List.mem_append_right _ (mem_urls hearlier hread')
  intro hnodup
  have hsplit : urls (later ++ e :: earlier) = urls later ++ url :: urls earlier := by
    simp [urls, hread]
  rw [hsplit] at hnodup
  exact (List.nodup_cons.1 (List.nodup_middle.1 hnodup)).1 hmem

/-- However the calls of a player overlap, and whatever becomes of the documents meanwhile: the graphs are read
once, kept for good and shown by all mounts of their url exactly as long as no two mounts that wait for the same
document at a time are both given it. -/
theorem append_only_unless_raced (h : (protocol c).Trace allowed answers ⟨ofCatalog catalog, []⟩ es f) :
    AppendOnly es f ↔ ¬ Raced es := by
  constructor
  · intro happend hraced
    exact hraced.not_nodup happend.once
  · intro hraced
    exact .of_nodup h (nodup_of_not_raced h hraced)

end Events

/-- The tale once its document was changed: it has one scene only. -/
def shortDocs (path : String) : Except SourceFault Json.Value :=
  if path = "a.json" then
    .ok (.object [("start", .string "S1"), ("scenes", .object [("S1", .object [("text", .string "Bye")])])])
  else taleDocs path

/-- The reader leaves for the yard while the document of the tale is fetched, which then comes. -/
def leavingTale : List (Protocol.Move Call) :=
  [.begin (.boot (some "yard")), .resume 0, .begin (.go "story_a"), .begin (.go "yard"), .resume 1]

/-- The place of the reader comes too late; then the reader comes back to the tale twice. -/
def comingBack : List (Protocol.Move Call) :=
  [.resume 1, .begin (.go "story_a"), .resume 3, .begin (.go "yard"), .begin (.go "story_a"), .resume 5]

def leftTale : (protocol {}).Flight :=
  Protocol.Flight.play (P := protocol {}) (sourceOf taleDocs) ⟨ofCatalog taleCatalog, []⟩ leavingTale

def cameBack : (protocol {}).Flight := Protocol.Flight.play (P := protocol {}) (sourceOf shortDocs) leftTale comingBack

def backEvents : List (protocol {}).Event :=
  Protocol.Flight.events (P := protocol {}) (sourceOf shortDocs) leftTale comingBack ++
    Protocol.Flight.events (P := protocol {}) (sourceOf taleDocs) ⟨ofCatalog taleCatalog, []⟩ leavingTale

/-- The tale that was read for the mount that came too late is the one that is shown. -/
theorem append_only_unless_raced_coming_back :
    (protocol {}).Trace (fun _ => True) (fun _ _ => True) ⟨ofCatalog taleCatalog, []⟩ backEvents cameBack ∧
    AppendOnly backEvents cameBack ∧ urls backEvents = ["a.json"] ∧
    (renderings backEvents).map (fun shown => (shown.1, shown.2.ids)) =
      [(some "a.json", [⟨"S1"⟩, ⟨"S2"⟩]), (some "a.json", [⟨"S1"⟩, ⟨"S2"⟩])] := by
  have htrace : (protocol {}).Trace (fun _ => True) (fun _ _ => True) ⟨ofCatalog taleCatalog, []⟩ backEvents cameBack :=
    Protocol.trace_events (fun _ => trivial) (fun _ _ => trivial)
      (Protocol.trace_script (fun _ => trivial) fun _ _ => trivial)
  have hurls : urls backEvents = ["a.json"] := by decide +kernel
  have huncrossed : ¬ Raced backEvents := by
    intro hraced
    refine hraced.not_nodup ?_
    rw [hurls]
    exact List.nodup_singleton _
  exact ⟨htrace, (append_only_unless_raced htrace).2 huncrossed, hurls, by decide +kernel⟩

/-- The reader leaves the tale while it is fetched and comes back at once; the document comes to the second mount,
and the reader is shown the first scene. -/
def fetchedTwice : List (Protocol.Move Call) :=
  [.begin (.boot (some "yard")), .resume 0, .begin (.go "story_a"), .begin (.go "yard"), .begin (.go "story_a"),
    .resume 3, .resume 3]

/-- The document comes to the first mount too; then the reader leaves the tale and comes back. -/
def comingLate : List (Protocol.Move Call) := [.resume 1, .begin (.go "yard"), .begin (.go "story_a"), .resume 5]

def shownOnce : (protocol {}).Flight :=
  Protocol.Flight.play (P := protocol {}) (sourceOf taleDocs) ⟨ofCatalog taleCatalog, []⟩ fetchedTwice

def cameLate : (protocol {}).Flight :=
  Protocol.Flight.play (P := protocol {}) (sourceOf shortDocs) shownOnce comingLate

def lateEvents : List (protocol {}).Event :=
  Protocol.Flight.events (P := protocol {}) (sourceOf shortDocs) shownOnce comingLate ++
    Protocol.Flight.events (P := protocol {}) (sourceOf taleDocs) ⟨ofCatalog taleCatalog, []⟩ fetchedTwice

/-- The document is read twice, the graph that is shown already is replaced, and the next mount shows the other. -/
theorem graph_replaced_when_raced :
    (protocol {}).Trace (fun _ => True) (fun _ _ => True) ⟨ofCatalog taleCatalog, []⟩ lateEvents cameLate ∧
    urls lateEvents = ["a.json", "a.json"] ∧
    (shownOnce.state.storybook.graphs.get? "a.json").map (·.ids) = some [⟨"S1"⟩, ⟨"S2"⟩] ∧
    (cameLate.state.storybook.graphs.get? "a.json").map (·.ids) = some [⟨"S1"⟩] ∧
    (renderings lateEvents).map (fun shown => (shown.1, shown.2.ids)) =
      [(some "a.json", [⟨"S1"⟩]), (some "a.json", [⟨"S1"⟩, ⟨"S2"⟩])] ∧
    ¬ AppendOnly lateEvents cameLate := by
  have htrace : (protocol {}).Trace (fun _ => True) (fun _ _ => True) ⟨ofCatalog taleCatalog, []⟩ lateEvents cameLate :=
    Protocol.trace_events (fun _ => trivial) (fun _ _ => trivial)
      (Protocol.trace_script (fun _ => trivial) fun _ _ => trivial)
  have hurls : urls lateEvents = ["a.json", "a.json"] := by decide +kernel
  refine ⟨htrace, hurls, by decide +kernel, by decide +kernel, by decide +kernel, ?_⟩
  intro happend
  have honce := happend.once
  rw [hurls] at honce
  exact absurd honce (by decide)

end Gamebook.App
