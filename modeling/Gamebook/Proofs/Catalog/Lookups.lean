import Gamebook.Proofs.Catalog.Entries

/-! Looking up stories one after another. The source may fail, and may hold another catalog document each time; what
is asked of it is noted with each answer. Until a document has come each query asks for one that cannot do without,
and from then on the first one that came answers all: `answers_settled_by_first_document`. -/
namespace Gamebook.Catalog

open Json (Value)

inductive Query
  | preload
  | locate (story : StoryId)

inductive Answer
  | preloaded (result : Except SourceFault Unit)
  | located (locator : Option Locator)

/-- A query, with what the source would reply at that time if it was asked for the catalog document. -/
structure Asked where
  query : Query
  source : Except SourceFault Value

/-- A query that was answered, with the path of the document that was asked for meanwhile. -/
structure Answered where
  asked : Asked
  requested? : Option String
  answer : Answer

def Answered.document? (r : Answered) : Option Value := r.requested?.bind fun _ => r.asked.source.toOption

/-- Answers a query, with one request to the source if the catalog has to wait for it. -/
def serve (x : Asked) (catalog : Catalog) : Catalog × Answered :=
  match x.query with
  | .preload =>
    let made := preload catalog
    match made.value with
    | .done result => (made.state, ⟨x, none, .preloaded result⟩)
    | .waiting w =>
      let next := w.resume x.source made.state
      (next.state, ⟨x, some w.path, .preloaded next.value⟩)
  | .locate story =>
    let made := resolve story catalog
    match made.value with
    | .done locator => (made.state, ⟨x, none, .located locator⟩)
    | .waiting w =>
      let next := w.resume x.source made.state
      (next.state, ⟨x, some w.path, .located next.value⟩)

def serveAll (catalog : Catalog) : List Asked → Catalog × List Answered
  | [] => (catalog, [])
  | x :: xs =>
    let (catalog, answered) := serve x catalog
    let (last, rest) := serveAll catalog xs
    (last, answered :: rest)

/-- How a query is answered while no document has come. -/
inductive Unsettled (path : String) : Answered → Prop
  | preload (source : Except SourceFault Value) :
      Unsettled path ⟨⟨.preload, source⟩, some path, .preloaded (source.map fun _ => ())⟩
  | blank {story : StoryId} (source : Except SourceFault Value) : Text.trim story.text = "" →
      Unsettled path ⟨⟨.locate story, source⟩, none, .located none⟩
  | failed {story : StoryId} (cause : SourceFault) : Text.trim story.text ≠ "" →
      Unsettled path ⟨⟨.locate story, .error cause⟩, some path, .located none⟩
  | came {story : StoryId} {doc : Value} {locator : Option Locator} : Text.trim story.text ≠ "" →
      (∀ found, Gives doc story found ↔ found = locator) →
      Unsettled path ⟨⟨.locate story, .ok doc⟩, some path, .located locator⟩

/-- How a query is answered once a document has come: nothing is asked for, and the source does not matter. -/
inductive Settled (doc : Value) : Answered → Prop
  | preload (source : Except SourceFault Value) : Settled doc ⟨⟨.preload, source⟩, none, .preloaded (.ok ())⟩
  | locate {story : StoryId} {locator : Option Locator} (source : Except SourceFault Value) :
      (∀ found, Gives doc story found ↔ found = locator) →
      Settled doc ⟨⟨.locate story, source⟩, none, .located locator⟩

variable {path : String} {doc : Value}

theorem gives_iff_eq (doc : Value) (story : StoryId) (found : Option Locator) :
    Gives doc story found ↔ found = (index doc).get? ⟨Text.trim story.text⟩ :=
  gives_iff.trans eq_comm

theorem serve_settled (path : String) (doc : Value) (x : Asked) :
    (serve x (.packs path (some (index doc)))).1 = .packs path (some (index doc)) ∧
      Settled doc (serve x (.packs path (some (index doc)))).2 := by
  obtain ⟨query, source⟩ := x
  cases query with
  | preload => exact ⟨rfl, .preload source⟩
  | locate story => exact ⟨rfl, .locate source (gives_iff_eq doc story)⟩

theorem serve_unsettled (path : String) (x : Asked) :
    (serve x (.packs path none)).1 = .packs path ((serve x (.packs path none)).2.document?.map index) ∧
      Unsettled path (serve x (.packs path none)).2 := by
  obtain ⟨query, source⟩ := x
  cases query with
  | preload =>
    cases source with
    | error cause => exact ⟨rfl, .preload (.error cause)⟩
    | ok doc => exact ⟨rfl, .preload (.ok doc)⟩
  | locate story =>
    by_cases hblank : Text.blank story.text = true
    · have hserve : serve ⟨.locate story, source⟩ (.packs path none) =
          (.packs path none, ⟨⟨.locate story, source⟩, none, .located none⟩) := by
        simp [serve, resolve, Act.bind_apply, hblank]
      rw [hserve]
      exact ⟨rfl, .blank source ((Text.trim_eq_empty_iff _).2 hblank)⟩
    · have hname : Text.trim story.text ≠ "" := fun h => hblank ((Text.trim_eq_empty_iff _).1 h)
      have hresolve : resolve story (.packs path none) = ⟨.packs path none, [], .waiting ⟨story, path⟩⟩ := by
        simp [resolve, Act.bind_apply, hblank]
      cases source with
      | error cause =>
        have hserve : serve ⟨.locate story, .error cause⟩ (.packs path none) =
            (.packs path none, ⟨⟨.locate story, .error cause⟩, some path, .located none⟩) := by
          simp only [serve, hresolve]
          rfl
        rw [hserve]
        exact ⟨rfl, .failed cause hname⟩
      | ok doc =>
        have hserve : serve ⟨.locate story, .ok doc⟩ (.packs path none) = (.packs path (some (index doc)),
            ⟨⟨.locate story, .ok doc⟩, some path, .located ((index doc).get? ⟨Text.trim story.text⟩)⟩) := by
          simp only [serve, hresolve]
          rfl
        rw [hserve]
        exact ⟨rfl, .came hname (gives_iff_eq doc story)⟩

def firstDocument? (rs : List Answered) : Option Value := rs.findSome? Answered.document?

theorem serveAll_settled (path : String) (doc : Value) (xs : List Asked) :
    (serveAll (.packs path (some (index doc))) xs).1 = .packs path (some (index doc)) := by
  induction xs with
  | nil => rfl
  | cons x xs ih =>
    obtain ⟨hcatalog, -⟩ := serve_settled path doc x
    simp only [serveAll, hcatalog, ih]

/-- A catalog keeps the first document that came, and nothing before it comes. -/
theorem serveAll_unsettled (path : String) (xs : List Asked) : (serveAll (.packs path none) xs).1 =
    .packs path ((firstDocument? (serveAll (.packs path none) xs).2).map index) := by
  induction xs with
  | nil => rfl
  | cons x xs ih =>
    obtain ⟨hcatalog, -⟩ := serve_unsettled path x
    simp only [serveAll, firstDocument?, List.findSome?_cons, hcatalog]
    cases (serve x (.packs path none)).2.document? with
    | none => exact ih
    | some doc => exact serveAll_settled path doc xs

theorem serve_asked (x : Asked) (catalog : Catalog) : (serve x catalog).2.asked = x := by
  obtain ⟨query, source⟩ := x
  cases query with
  | preload =>
    simp only [serve]
    split <;> rfl
  | locate story =>
    simp only [serve]
    split <;> rfl

/-- Queries are made one after another of a catalog that is not loaded, and then one more. As long as no document has
come it is answered by what comes meanwhile, and after that by the first document that came, alone. -/
theorem answers_settled_by_first_document (path : String) (xs : List Asked) (x : Asked) :
    let (catalog, earlier) := serveAll (.packs path none) xs
    let answered := (serve x catalog).2
    answered.asked = x ∧
      match firstDocument? earlier with
      | none => Unsettled path answered
      | some doc => Settled doc answered := by
  refine ⟨serve_asked x _, ?_⟩
  rw [serveAll_unsettled]
  cases firstDocument? (serveAll (.packs path none) xs).2 with
  | none => exact (serve_unsettled path x).2
  | some doc => exact (serve_settled path doc x).2

/-- The document comes with the second query, and lists the story twice. -/
example :
    let story (id file : String) : Value := .object [("id", .string id), ("storyJson", .string file)]
    let pack (name : String) (stories : List Value) : Value := .object [("packId", .string name),
      ("root", .string name), ("stories", .array stories)]
    let doc : Value := .object [("packs", .array [pack "p" [story "a" "a.json"], pack "q/" [story " a " "/b.json"]])]
    let missing : Except SourceFault Value := .error (.notFound "c.json")
    let found : Locator := ⟨⟨"a"⟩, "q/", "q/", "q/b.json", ""⟩
    (serveAll (.packs "c.json" none)
        [⟨.preload, missing⟩, ⟨.locate ⟨"a "⟩, .ok doc⟩, ⟨.locate ⟨"a"⟩, missing⟩]).2.map
          (fun r => (r.requested?, r.answer)) =
      [(some "c.json", .preloaded (.error (.notFound "c.json"))), (some "c.json", .located (some found)),
        (none, .located (some found))] := by
  rfl

end Gamebook.Catalog
