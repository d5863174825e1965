import Gamebook.Proofs.Story.WellFormed
import Mathlib.Data.List.Forall2

/-! The documents of a story. A tale is a story on its own, without a document; a document encodes it in one
of three shapes, with each thing under any of its names. What stands under the names before is vacant,
and nothing is asked of what stands under the names behind or under names that have no meaning. The
main statement is `dialects_agree`: all documents of a tale give its graph. -/
namespace Gamebook

namespace Table

variable {κ α : Type} [DecidableEq κ]

theorem put_of_notMem {t : Table κ α} {k : κ} (h : k ∉ t.keys) (v : α) : t.put k v = t ++ [(k, v)] := by
  induction t with
  | nil => rfl
  | cons e rest ih =>
    obtain ⟨key, value⟩ := e
    obtain ⟨hk, hrest⟩ := not_or.1 (mt List.mem_cons.2 h)
    rw [put, if_neg (Ne.symm hk), ih hrest]
    rfl

end Table

namespace Text

theorem Trimmed.trimmed?_eq {s t : String} (h : Trimmed s) (ht : trim t = s) : trimmed? t = some s := by
  have hblank : ¬ blank t = true := by
    rw [← trim_eq_empty_iff, ht]
    exact h.nonempty
  rw [trimmed?, if_neg hblank, ht]

end Text

namespace Story

open Json (Value)

structure Tale where
  start : NodeId
  scenes : List Scene
  startTrimmed : Text.Trimmed start.text
  ids : (scenes.map (·.id)).Nodup
  idsTrimmed : ∀ s ∈ scenes, Text.Trimmed s.id.text
  texts : ∀ s ∈ scenes, s.text = "" ∨ Text.blank s.text = false
  labels : ∀ s ∈ scenes, ∀ choice ∈ s.options, Text.Trimmed choice.label
  targets : ∀ s ∈ scenes, ∀ choice ∈ s.options, choice.target ∈ scenes.map (·.id)

def Tale.graph (t : Tale) : Graph := ⟨t.start, t.scenes.map fun s => (s.id, s)⟩

namespace Dialect

/-- There is no such field, or nothing in it. -/
inductive Vacant (v : Value) (name : String) : Prop
  | absent : v.field? name = none → Vacant v name
  | null : v.field? name = some .null → Vacant v name
  | blank {s : String} : v.field? name = some (.string s) → Text.blank s = true → Vacant v name

/-- A value stands under a name of a list, and the names before it are vacant. -/
inductive Under (v x : Value) : List String → Prop
  | here {name : String} {names : List String} : v.field? name = some x → Under v x (name :: names)
  | later {name : String} {names : List String} : Vacant v name → Under v x names →
      Under v x (name :: names)

/-- A scalar whose text is this one, with or without white space around it. -/
def Spells (v : Value) (names : List String) (s : String) : Prop :=
  ∃ x t, Under v x names ∧ x.scalar? = some t ∧ Text.trim t = s

structure EncodesChoice (v : Value) (choice : Choice) : Prop where
  label : Spells v labelNames choice.label
  target : Spells v targetNames choice.target.text

/-- An empty text may be left out. -/
inductive EncodesText (v : Value) (text : String) : Prop
  | told {x : Value} : Under v x textNames → x.scalar? = some text → Text.blank text = false →
      EncodesText v text
  | empty : text = "" → (∀ name ∈ textNames, Vacant v name) → EncodesText v text

/-- So may a collection of no choices. -/
inductive EncodesChoices (v : Value) (options : List Choice) : Prop
  | listed {items : List Value} : Under v (.array items) choiceNames →
      List.Forall₂ EncodesChoice items options → EncodesChoices v options
  | empty : options = [] → (∀ name ∈ choiceNames, Vacant v name) → EncodesChoices v options

structure EncodesScene (v : Value) (s : Scene) : Prop where
  object : ∃ fields, v = .object fields
  text : EncodesText v s.text
  choices : EncodesChoices v s.options

structure EncodesEntry (e : String × Value) (s : Scene) : Prop where
  id : Text.trim e.1 = s.id.text
  scene : EncodesScene e.2 s

structure EncodesSection (v : Value) (s : Scene) : Prop where
  id : Spells v idNames s.id.text
  scene : EncodesScene v s

/-- The three shapes of a document. A map of scenes is read before an array. -/
inductive EncodesScenes (doc : Value) (ss : List Scene) : Prop
  | scenes {fields : List (String × Value)} : doc.field? "scenes" = some (.object fields) →
      List.Forall₂ EncodesEntry fields ss → EncodesScenes doc ss
  | nodes {fields : List (String × Value)} : (∀ fs, doc.field? "scenes" ≠ some (.object fs)) →
      doc.field? "nodes" = some (.object fields) → List.Forall₂ EncodesEntry fields ss →
      EncodesScenes doc ss
  | sections {items : List Value} : (∀ fs, doc.field? "scenes" ≠ some (.object fs)) →
      (∀ fs, doc.field? "nodes" ≠ some (.object fs)) → doc.field? "sections" = some (.array items) →
      List.Forall₂ EncodesSection items ss → EncodesScenes doc ss

structure Encodes (doc : Value) (t : Tale) : Prop where
  start : Spells doc startNames t.start.text
  scenes : EncodesScenes doc t.scenes

theorem Vacant.find?_eq {v : Value} {name : String} (h : Vacant v name) (names : List String) :
    v.firstFilled? (name :: names) = v.firstFilled? names := by
  cases h with
  | absent h => simp [Value.firstFilled?, h]
  | null h => simp [Value.firstFilled?, h, Value.isFilled]
  | blank h hs => simp [Value.firstFilled?, h, Value.isFilled, hs]

theorem firstFilled?_of_vacant {v : Value} {names : List String} (h : ∀ name ∈ names, Vacant v name) :
    v.firstFilled? names = none := by
  induction names with
  | nil => rfl
  | cons name names ih =>
    rw [(h name List.mem_cons_self).find?_eq]
    exact ih fun n hn => h n (List.mem_cons_of_mem name hn)

theorem Under.firstFilled? {v x : Value} {names : List String} (h : Under v x names)
    (hx : x.isFilled = true) : v.firstFilled? names = some x := by
  induction h with
  | here h => simp [Value.firstFilled?, h, hx]
  | later hvacant _ ih => rw [hvacant.find?_eq, ih]

theorem isFilled_of_scalar? {x : Value} {s : String} (h : x.scalar? = some s) (hs : Text.blank s = false) :
    x.isFilled = true := by
  cases x with
  | string t =>
    obtain rfl := Option.some.inj h
    simp [Value.isFilled, hs]
  | number n => rfl
  | bool b => rfl
  | null => cases h
  | array items => cases h
  | object fields => cases h

theorem Spells.firstText? {v : Value} {names : List String} {s : String} (h : Spells v names s)
    (hs : Text.Trimmed s) : firstText? v names = some s := by
  obtain ⟨x, t, hunder, hscalar, ht⟩ := h
  have htrimmed := hs.trimmed?_eq ht
  have hblank : Text.blank t = false := by
    rw [Bool.eq_false_iff, Ne, ← Text.trim_eq_empty_iff, ht]
    exact hs.nonempty
  rw [Dialect.firstText?, hunder.firstFilled? (isFilled_of_scalar? hscalar hblank), Option.bind_some, hscalar,
    Option.bind_some, htrimmed]

theorem forall₂_filterMap {α β γ : Type} {R : α → β → Prop} {S : γ → β → Prop} {f : α → Option γ} {xs : List α}
    {ys : List β} (h : List.Forall₂ R xs ys) (hf : ∀ x, ∀ y ∈ ys, R x y → ∃ z, f x = some z ∧ S z y) :
    List.Forall₂ S (xs.filterMap f) ys := by
  induction h with
  | nil => exact .nil
  | cons hxy _ ih =>
    obtain ⟨z, hz, hzy⟩ := hf _ _ List.mem_cons_self hxy
    rw [List.filterMap_cons_some hz]
    exact .cons hzy (ih fun x y hy => hf x y (List.mem_cons_of_mem _ hy))

theorem filterMap_of_forall₂ {α β : Type} {R : α → β → Prop} {f : α → Option β} {xs : List α} {ys : List β}
    (h : List.Forall₂ R xs ys) (hf : ∀ x, ∀ y ∈ ys, R x y → f x = some y) : xs.filterMap f = ys :=
  List.forall₂_eq_eq_eq ▸ forall₂_filterMap h fun x y hy hxy => ⟨y, hf x y hy hxy, rfl⟩

variable (c : StorySettings)

theorem choice?_of_encodes {v : Value} {choice : Choice} (h : EncodesChoice v choice)
    (hlabel : Text.Trimmed choice.label) (htarget : Text.Trimmed choice.target.text) :
    choice? c v = some choice := by
  simp [choice?, h.target.firstText? htarget, h.label.firstText? hlabel]

theorem text_of_encodes {v : Value} {text : String} (h : EncodesText v text) :
    ((v.firstFilled? textNames).bind Value.scalar?).getD "" = text := by
  cases h with
  | told hunder hscalar hblank =>
    rw [hunder.firstFilled? (isFilled_of_scalar? hscalar hblank), Option.bind_some, hscalar, Option.getD_some]
  | empty hempty hvacant =>
    rw [firstFilled?_of_vacant hvacant, hempty]
    rfl

theorem choices_of_encodes {v : Value} {options : List Choice} (h : EncodesChoices v options)
    (hoptions : ∀ choice ∈ options, Text.Trimmed choice.label ∧ Text.Trimmed choice.target.text) :
    (((v.firstFilled? choiceNames).bind Value.items?).getD []).filterMap (choice? c) = options := by
  cases h with
  | listed hunder hitems =>
    rw [hunder.firstFilled? rfl]
    exact filterMap_of_forall₂ hitems fun _ choice hchoice hv =>
      choice?_of_encodes c hv (hoptions choice hchoice).1 (hoptions choice hchoice).2
  | empty hempty hvacant =>
    rw [firstFilled?_of_vacant hvacant, hempty]
    rfl

theorem scene?_of_encodes {v : Value} {s : Scene} (h : EncodesScene v s)
    (hoptions : ∀ choice ∈ s.options, Text.Trimmed choice.label ∧ Text.Trimmed choice.target.text) :
    scene? c s.id v = some s := by
  obtain ⟨fields, rfl⟩ := h.object
  simp only [scene?, Value.fields?, Option.bind_eq_bind, Option.bind_some, choices_of_encodes c h.choices hoptions,
    text_of_encodes h.text]
  rfl

structure Names (e : NodeId × Value) (s : Scene) : Prop where
  id : e.1 = s.id
  scene : EncodesScene e.2 s

theorem mapEntries_of_encodes {fields : List (String × Value)} {ss : List Scene}
    (h : List.Forall₂ EncodesEntry fields ss) (hids : ∀ s ∈ ss, Text.Trimmed s.id.text) :
    List.Forall₂ Names (mapEntries fields) ss := by
  refine forall₂_filterMap h fun e s hs hes => ⟨(s.id, e.2), ?_, rfl, hes.scene⟩
  rw [(hids s hs).trimmed?_eq hes.id]
  rfl

theorem arrayEntries_of_encodes {items : List Value} {ss : List Scene}
    (h : List.Forall₂ EncodesSection items ss) (hids : ∀ s ∈ ss, Text.Trimmed s.id.text) :
    List.Forall₂ Names (arrayEntries items) ss := by
  refine forall₂_filterMap h fun v s hs hvs => ⟨(s.id, v), ?_, rfl, hvs.scene⟩
  rw [hvs.id.firstText? (hids s hs)]
  rfl

theorem bind_fields?_eq_none {doc : Value} {name : String} (h : ∀ fs, doc.field? name ≠ some (.object fs)) :
    (doc.field? name).bind Value.fields? = none := by
  cases hfield : doc.field? name with
  | none => rfl
  | some x =>
    cases x with
    | object fs => exact absurd hfield (h fs)
    | _ => rfl

theorem entries?_of_encodes {doc : Value} {ss : List Scene} (h : EncodesScenes doc ss)
    (hids : ∀ s ∈ ss, Text.Trimmed s.id.text) :
    ∃ entries, entries? doc = some entries ∧ List.Forall₂ Names entries ss := by
  cases h with
  | scenes hfield hes =>
    exact ⟨_, by simp [entries?, mapNames, hfield, Value.fields?], mapEntries_of_encodes hes hids⟩
  | nodes hscenes hfield hes =>
    have hnone := bind_fields?_eq_none hscenes
    exact ⟨_, by simp [entries?, mapNames, hnone, hfield, Value.fields?], mapEntries_of_encodes hes hids⟩
  | sections hscenes hnodes hfield hvs =>
    have hnone := bind_fields?_eq_none hscenes
    have hnone' := bind_fields?_eq_none hnodes
    exact ⟨_, by simp [entries?, mapNames, arrayNames, hnone, hnone', hfield, Value.items?],
      arrayEntries_of_encodes hvs hids⟩

theorem scenes_of_names {entries : List (NodeId × Value)} {ss : List Scene} (h : List.Forall₂ Names entries ss)
    (hoptions : ∀ s ∈ ss, ∀ choice ∈ s.options,
      Text.Trimmed choice.label ∧ Text.Trimmed choice.target.text) : scenes c entries = ss := by
  refine filterMap_of_forall₂ h fun e s hs hes => ?_
  rw [hes.id]
  exact scene?_of_encodes c hes.scene (hoptions s hs)

end Dialect

/-- Scenes under new names go last, in their order. -/
theorem Graph.insertAll_of_nodup {ss : List Scene} {g : Graph} (hnodup : (ss.map (·.id)).Nodup)
    (hnew : ∀ s ∈ ss, s.id ∉ g.ids) :
    ss.foldl Graph.insert g = ⟨g.start, g.scenes ++ ss.map fun s => (s.id, s)⟩ := by
  induction ss generalizing g with
  | nil => simp
  | cons s ss ih =>
    obtain ⟨hs, hnodup⟩ := List.nodup_cons.1 hnodup
    have hinsert : g.insert s = ⟨g.start, g.scenes ++ [(s.id, s)]⟩ := by
      rw [Graph.insert, Table.put_of_notMem (hnew s List.mem_cons_self)]
    rw [List.foldl_cons, hinsert, ih hnodup]
    · simp
    · intro t ht hmem
      rw [Graph.ids, Table.keys, List.map_append, List.mem_append] at hmem
      rcases hmem with hold | hlast
      · exact hnew t (List.mem_cons_of_mem s ht) hold
      · obtain hid : t.id = s.id := by simpa using hlast
        exact hs (List.mem_map.2 ⟨t, ht, hid⟩)

theorem Tale.ids_graph (t : Tale) : t.graph.ids = t.scenes.map (·.id) := by
  simp [Tale.graph, Graph.ids, Table.keys, Function.comp_def]

theorem Tale.dropDangling_graph (t : Tale) : t.graph.dropDangling = t.graph := by
  have hkeep : ∀ s ∈ t.scenes,
      ({ s with options := s.options.filter fun choice => t.graph.contains choice.target } : Scene) = s := by
    intro s hs
    have hall : ∀ choice ∈ s.options, t.graph.contains choice.target = true := by
      intro choice hchoice
      rw [Graph.contains_iff, t.ids_graph]
      exact t.targets s hs choice hchoice
    rw [List.filter_eq_self.2 hall]
  have hscenes : t.graph.dropDangling.scenes = t.graph.scenes := by
    change (t.scenes.map fun s => (s.id, s)).map _ = t.scenes.map fun s => (s.id, s)
    rw [List.map_map]
    exact List.map_congr_left fun s hs => congrArg (Prod.mk s.id) (hkeep s hs)
  exact congrArg (Graph.mk t.start) hscenes

namespace Dialect

theorem start_of_encodes (c : StorySettings) {doc : Value} {start : NodeId} (h : Spells doc startNames start.text)
    (hstart : Text.Trimmed start.text) : Dialect.start c doc = start := by
  simp only [Dialect.start, h.firstText? hstart]

/-- A document of a tale gives its graph. -/
theorem graph_of_encodes (c : StorySettings) {t : Tale} {doc : Value} (h : Encodes doc t) :
    Graph.ofDocument c doc = t.graph := by
  have hoptions : ∀ s ∈ t.scenes, ∀ choice ∈ s.options,
      Text.Trimmed choice.label ∧ Text.Trimmed choice.target.text := by
    intro s hs choice hchoice
    obtain ⟨u, hu, hid⟩ := List.mem_map.1 (t.targets s hs choice hchoice)
    exact ⟨t.labels s hs choice hchoice, hid ▸ t.idsTrimmed u hu⟩
  obtain ⟨entries, hentries, hnames⟩ := entries?_of_encodes h.scenes t.idsTrimmed
  rw [Graph.ofDocument, hentries, Option.getD_some, scenes_of_names c hnames hoptions,
    start_of_encodes c h.start t.startTrimmed, Graph.insertAll_of_nodup t.ids (fun _ _ => List.not_mem_nil)]
  exact t.dropDangling_graph

theorem dialects_agree (c c' : StorySettings) {t : Tale} {doc doc' : Value} (h : Encodes doc t)
    (h' : Encodes doc' t) :
    Graph.ofDocument c doc = t.graph ∧ Graph.ofDocument c' doc' = Graph.ofDocument c doc := by
  refine ⟨graph_of_encodes c h, ?_⟩
  rw [graph_of_encodes c h, graph_of_encodes c' h']

def fork : Tale where
  start := ⟨"1"⟩
  scenes := [⟨⟨"1"⟩, "A fork.", [⟨"Left", ⟨"2"⟩⟩, ⟨"Stay", ⟨"1"⟩⟩]⟩, ⟨⟨"2"⟩, "", []⟩]
  startTrimmed := ⟨by decide, by decide⟩
  ids := by decide
  idsTrimmed s hs := by
    rcases List.mem_pair.1 hs with rfl | rfl <;> exact ⟨by decide, by decide⟩
  texts s hs := by
    rcases List.mem_pair.1 hs with rfl | rfl <;> decide
  labels s hs choice hchoice := by
    rcases List.mem_pair.1 hs with rfl | rfl
    · rcases List.mem_pair.1 hchoice with rfl | rfl <;> exact ⟨by decide, by decide⟩
    · cases hchoice
  targets := by decide

/-- The fork in a map, with blank and null fields before the ones that count. -/
def forkMap : Value :=
  .object [("start", .null), ("entry", .string " 1"), ("nodes", .string "none"),
    ("scenes", .object [
      ("1", .object [("text", .string " "), ("body", .string "A fork."),
        ("options", .array [
          .object [("label", .string "Left"), ("to", .number (.natural 2)), ("next", .bool true)],
          .object [("title", .string "Stay "), ("to", .string ""), ("go", .string "1")]])]),
      (" 2 ", .object [("choices", .null)])])]

/-- The fork in an array, where other fields are called text, name and id than those of the scenes. -/
def forkSections : Value :=
  .object [("root", .number (.natural 1)), ("scenes", .array []),
    ("sections", .array [
      .object [("id", .number (.natural 1)), ("content", .string "A fork."),
        ("links", .array [
          .object [("text", .string "Left"), ("id", .string "2"), ("name", .null)],
          .object [("name", .string "Stay"), ("id", .number (.natural 1))]])],
      .object [("id", .null), ("key", .string "2"), ("links", .array [])]])]

theorem encodes_forkMap : Encodes forkMap fork where
  start := ⟨_, _, .later (.null rfl) (.here rfl), rfl, by decide⟩
  scenes := by
    refine .scenes rfl (.cons ⟨by decide, ⟨_, rfl⟩, ?_, ?_⟩ (.cons ⟨by decide, ⟨_, rfl⟩, ?_, ?_⟩ .nil))
    · exact .told (.later (.blank rfl (by decide)) (.here rfl)) rfl (by decide)
    · refine .listed (.here rfl) (.cons ⟨?_, ?_⟩ (.cons ⟨?_, ?_⟩ .nil))
      · exact ⟨_, _, .here rfl, rfl, by decide⟩
      · exact ⟨_, _, .here rfl, rfl, by decide⟩
      · exact ⟨_, _, .later (.absent rfl) (.later (.absent rfl) (.here rfl)), rfl, by decide⟩
      · exact ⟨_, _, .later (.blank rfl (by decide)) (.later (.absent rfl) (.here rfl)), rfl, by decide⟩
    · exact .empty rfl fun name hname => .absent (by revert name; decide)
    · refine .empty rfl fun name hname => ?_
      rcases List.mem_cons.1 hname with rfl | hname
      · exact .absent rfl
      · rcases List.mem_cons.1 hname with rfl | hname
        · exact .null rfl
        · exact .absent (by revert name; decide)

theorem encodes_forkSections : Encodes forkSections fork where
  start := ⟨_, _, .later (.absent rfl) (.later (.absent rfl) (.later (.absent rfl) (.here rfl))), rfl, by decide⟩
  scenes := by
    refine .sections ?_ ?_ rfl (.cons ⟨?_, ⟨_, rfl⟩, ?_, ?_⟩ (.cons ⟨?_, ⟨_, rfl⟩, ?_, ?_⟩ .nil))
    · intro fs h
      cases h
    · intro fs h
      cases h
    · exact ⟨_, _, .here rfl, rfl, by decide⟩
    · exact .told (.later (.absent rfl) (.later (.absent rfl) (.later (.absent rfl) (.here rfl)))) rfl (by decide)
    · refine .listed (.later (.absent rfl) (.later (.absent rfl) (.later (.absent rfl) (.here rfl)))) ?_
      refine .cons ⟨?_, ?_⟩ (.cons ⟨?_, ?_⟩ .nil)
      · exact ⟨_, _, .later (.absent rfl) (.here rfl), rfl, by decide⟩
      · exact ⟨_, _, .later (.absent rfl) (.later (.absent rfl) (.later (.absent rfl) (.later (.absent rfl)
          (.here rfl)))), rfl, by decide⟩
      · exact ⟨_, _, .later (.absent rfl) (.later (.absent rfl) (.later (.absent rfl) (.here rfl))), rfl, by decide⟩
      · exact ⟨_, _, .later (.absent rfl) (.later (.absent rfl) (.later (.absent rfl) (.later (.absent rfl)
          (.here rfl)))), rfl, by decide⟩
    · exact ⟨_, _, .later (.null rfl) (.here rfl), rfl, by decide⟩
    · exact .empty rfl fun name hname => .absent (by revert name; decide)
    · exact .listed (.later (.absent rfl) (.later (.absent rfl) (.later (.absent rfl) (.here rfl)))) .nil

theorem dialects_agree_on_the_fork :
    Encodes forkMap fork ∧ Encodes forkSections fork ∧ Graph.ofDocument {} forkMap = fork.graph ∧
      Graph.ofDocument {} forkSections = Graph.ofDocument {} forkMap := by
  obtain ⟨hmap, hsections⟩ := dialects_agree {} {} encodes_forkMap encodes_forkSections
  exact ⟨encodes_forkMap, encodes_forkSections, hmap, hsections⟩

end Dialect
end Story
end Gamebook
