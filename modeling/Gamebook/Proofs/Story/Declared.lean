import Gamebook.Proofs.Story.Encodings
import Mathlib.Data.List.Induction

/-! Documents that declare a scene more than once. The entries of a collection are read one after another
into a table; a scene stands where its name stood first, with the content of the last entry of that name.
What a document declares, and what a scene is read from, is said without the reader. The main statement is
`declared_first_told_last`. -/
namespace Gamebook

namespace Table

variable {κ α β : Type} [DecidableEq κ]

def last? (es : List (κ × α)) (k : κ) : Option α := (es.reverse.find? fun e => e.1 = k).map Prod.snd

theorem last?_append (es fs : List (κ × α)) (k : κ) :
    last? (es ++ fs) k = (last? fs k).or (last? es k) := by
  simp [last?, List.reverse_append, List.find?_append, Option.map_or]

theorem last?_singleton (e : κ × α) (k : κ) : last? [e] k = if e.1 = k then some e.2 else none := by
  by_cases h : e.1 = k <;> simp [last?, h]

theorem last?_map (f : κ → α → β) (es : List (κ × α)) (k : κ) :
    last? (es.map fun e => (e.1, f e.1 e.2)) k = (last? es k).map (f k) := by
  induction es using List.reverseRecOn with
  | nil => rfl
  | append_singleton es e ih =>
    rw [List.map_append, last?_append, last?_append, ih, List.map_singleton, last?_singleton, last?_singleton]
    by_cases h : e.1 = k <;> simp [h]

theorem last?_eq_none_iff (es : List (κ × α)) (k : κ) : last? es k = none ↔ k ∉ es.map Prod.fst := by
  induction es using List.reverseRecOn with
  | nil => simp [last?]
  | append_singleton es e ih =>
    rw [last?_append, last?_singleton]
    by_cases h : e.1 = k
    · simp [h]
    · simp [h, ih, Ne.symm h]

theorem exists_of_last? {es : List (κ × α)} {k : κ} {v : α} (h : last? es k = some v) :
    ∃ before after, es = before ++ (k, v) :: after ∧ ∀ e ∈ after, e.1 ≠ k := by
  obtain ⟨e, hfind, rfl⟩ := Option.map_eq_some_iff.1 h
  obtain ⟨hk, after, before, hes, hafter⟩ := List.find?_eq_some_iff_append.1 hfind
  obtain rfl := of_decide_eq_true hk
  refine ⟨before.reverse, after.reverse, ?_, ?_⟩
  · rw [List.reverse_eq_iff] at hes
    simp [hes]
  · intro f hf
    simpa using hafter f (List.mem_reverse.1 hf)

theorem ofList_concat (es : List (κ × α)) (e : κ × α) : ofList (es ++ [e]) = (ofList es).put e.1 e.2 := by
  simp [ofList]

theorem eraseDups_concat (ks : List κ) (k : κ) :
    (ks ++ [k]).eraseDups = if k ∈ ks then ks.eraseDups else ks.eraseDups ++ [k] := by
  rw [List.eraseDups_append]
  by_cases h : k ∈ ks <;> simp [List.removeAll, h, List.eraseDups_cons]

/-- Keys stand where they were put first. -/
theorem keys_ofList (es : List (κ × α)) : (ofList es).keys = (es.map Prod.fst).eraseDups := by
  induction es using List.reverseRecOn with
  | nil => rfl
  | append_singleton es e ih =>
    rw [ofList_concat, keys_put, ih, List.map_append, List.map_singleton, eraseDups_concat]
    by_cases h : e.1 ∈ es.map Prod.fst <;> simp [h]

/-- Values are those that were put last. -/
theorem get?_ofList (es : List (κ × α)) (k : κ) : (ofList es).get? k = last? es k := by
  induction es using List.reverseRecOn with
  | nil => rfl
  | append_singleton es e ih =>
    rw [ofList_concat, get?_put, ih, last?_append, last?_singleton]
    by_cases h : e.1 = k <;> simp [h]

end Table

namespace Text

theorem trimmed?_eq_some_iff {s t : String} : trimmed? t = some s ↔ trim t = s ∧ s ≠ "" := by
  constructor
  · intro h
    have hs := trimmed_of_trimmed? h
    unfold trimmed? at h
    split at h
    · cases h
    · exact ⟨Option.some.inj h, hs.nonempty⟩
  · rintro ⟨rfl, hne⟩
    exact Trimmed.trimmed?_eq ⟨hne, trim_trim t⟩ rfl

end Text

namespace Story

open Json (Value)

/-- The scene with only those choices that lead to one of these scenes. -/
def Scene.within (ids : List NodeId) (s : Scene) : Scene :=
  { s with options := s.options.filter fun choice => choice.target ∈ ids }

namespace Dialect

def textOf (v : Value) : String := ((v.firstFilled? textNames).bind Value.scalar?).getD ""

def itemsOf (v : Value) : List Value := ((v.firstFilled? choiceNames).bind Value.items?).getD []

def sceneOf (c : StorySettings) (id : NodeId) (v : Value) : Scene :=
  ⟨id, textOf v, (itemsOf v).filterMap (choice? c)⟩

def named (doc : Value) : List (NodeId × Value) :=
  ((entries? doc).getD []).filter fun e => e.2.fields?.isSome

theorem scene?_eq (c : StorySettings) (id : NodeId) (v : Value) :
    scene? c id v = if v.fields?.isSome then some (sceneOf c id v) else none := by
  cases h : v.fields? <;> simp [scene?, h, sceneOf, textOf, itemsOf]

theorem scenes_eq (c : StorySettings) (entries : List (NodeId × Value)) :
    scenes c entries = (entries.filter fun e => e.2.fields?.isSome).map fun e => sceneOf c e.1 e.2 := by
  induction entries with
  | nil => rfl
  | cons e entries ih =>
    unfold scenes at ih ⊢
    rw [List.filterMap_cons, scene?_eq, ih]
    by_cases h : e.2.fields?.isSome <;> simp [h]

end Dialect

namespace Graph

theorem scenes_insertAll (ss : List Scene) (start : NodeId) :
    (ss.foldl Graph.insert (Graph.empty start)).scenes = Table.ofList (ss.map fun s => (s.id, s)) := by
  induction ss using List.reverseRecOn with
  | nil => rfl
  | append_singleton ss s ih =>
    rw [List.foldl_append, List.map_append, List.map_singleton, Table.ofList_concat, ← ih]
    rfl

variable (c : StorySettings) (doc : Value)

theorem scenes_entries : ((Dialect.scenes c ((Dialect.entries? doc).getD [])).foldl Graph.insert
      (Graph.empty (Dialect.start c doc))).scenes =
    Table.ofList ((Dialect.named doc).map fun e => (e.1, Dialect.sceneOf c e.1 e.2)) := by
  rw [scenes_insertAll, Dialect.scenes_eq, List.map_map]
  rfl

theorem start_ofDocument : (ofDocument c doc).start = Dialect.start c doc :=
  start_insertAll _ _

theorem ids_ofDocument : (ofDocument c doc).ids = ((Dialect.named doc).map Prod.fst).eraseDups := by
  rw [ofDocument, ids_dropDangling, ids, scenes_entries, Table.keys_ofList, List.map_map]
  rfl

theorem mem_ids_ofDocument {id : NodeId} :
    id ∈ (ofDocument c doc).ids ↔ id ∈ (Dialect.named doc).map Prod.fst := by
  rw [ids_ofDocument, List.mem_eraseDups]

theorem scene?_dropDangling_eq (g : Graph) (id : NodeId) :
    g.dropDangling.scene? id = (g.scene? id).map (Scene.within g.ids) := by
  rw [scene?_dropDangling]
  congr 1
  funext s
  have hcontains : (fun choice : Choice => g.contains choice.target) =
      fun choice : Choice => decide (choice.target ∈ g.ids) := by
    funext choice
    rw [Bool.eq_iff_iff, contains_iff, decide_eq_true_iff]
  rw [Scene.within, hcontains]

theorem scene?_ofDocument (id : NodeId) : (ofDocument c doc).scene? id =
    (Table.last? (Dialect.named doc) id).map fun v =>
      (Dialect.sceneOf c id v).within (ofDocument c doc).ids := by
  rw [ofDocument, ids_dropDangling, scene?_dropDangling_eq, scene?, scenes_entries, Table.get?_ofList,
    Table.last?_map, Option.map_map]
  rfl

end Graph

/-- A list picked from another: what stands for an element, in order, where anything does. -/
inductive Picked {α β : Type} (R : α → β → Prop) : List α → List β → Prop
  | nil : Picked R [] []
  | take {a : α} {b : β} {as : List α} {bs : List β} : R a b → Picked R as bs → Picked R (a :: as) (b :: bs)
  | skip {a : α} {as : List α} {bs : List β} : (∀ b, ¬ R a b) → Picked R as bs → Picked R (a :: as) bs

theorem picked_filterMap {α β : Type} {R : α → β → Prop} {f : α → Option β}
    (h : ∀ a b, f a = some b ↔ R a b) (as : List α) : Picked R as (as.filterMap f) := by
  induction as with
  | nil => exact .nil
  | cons a as ih =>
    cases hf : f a with
    | none =>
      rw [List.filterMap_cons_none hf]
      refine .skip (fun b hb => ?_) ih
      rw [(h a b).2 hb] at hf
      cases hf
    | some b =>
      rw [List.filterMap_cons_some hf]
      exact .take ((h a b).1 hf) ih

namespace Dialect

def First (v : Value) (names : List String) (x : Value) : Prop := Under v x names ∧ x.isFilled = true

/-- An entry of a map of scenes that holds an object under a name that is not blank. -/
structure DeclaresEntry (e : String × Value) (n : NodeId × Value) : Prop where
  id : Text.trim e.1 = n.1.text
  nonempty : n.1.text ≠ ""
  value : e.2 = n.2
  object : ∃ fields, e.2 = .object fields

/-- An object in an array of scenes that has a name of its own. -/
structure DeclaresSection (v : Value) (n : NodeId × Value) : Prop where
  id : Spells v idNames n.1.text
  nonempty : n.1.text ≠ ""
  value : v = n.2
  object : ∃ fields, v = .object fields

/-- The names that the collection of a document declares, each time with what stands under it. -/
inductive Declares (doc : Value) (named : List (NodeId × Value)) : Prop
  | scenes {fields : List (String × Value)} : doc.field? "scenes" = some (.object fields) →
      Picked DeclaresEntry fields named → Declares doc named
  | nodes {fields : List (String × Value)} : (∀ fs, doc.field? "scenes" ≠ some (.object fs)) →
      doc.field? "nodes" = some (.object fields) → Picked DeclaresEntry fields named → Declares doc named
  | sections {items : List Value} : (∀ fs, doc.field? "scenes" ≠ some (.object fs)) →
      (∀ fs, doc.field? "nodes" ≠ some (.object fs)) → doc.field? "sections" = some (.array items) →
      Picked DeclaresSection items named → Declares doc named
  | nowhere : (∀ fs, doc.field? "scenes" ≠ some (.object fs)) →
      (∀ fs, doc.field? "nodes" ≠ some (.object fs)) →
      (∀ items, doc.field? "sections" ≠ some (.array items)) → named = [] → Declares doc named

/-- The label of a choice, which is the one from the settings if it has none of its own. -/
inductive Labels (c : StorySettings) (w : Value) (label : String) : Prop
  | own : Spells w labelNames label → label ≠ "" → Labels c w label
  | lacking : (∀ s, Spells w labelNames s → s = "") → label = c.continueLabel → Labels c w label

/-- An object whose target is one of these scenes. -/
structure Offers (c : StorySettings) (ids : List NodeId) (w : Value) (choice : Choice) : Prop where
  object : ∃ fields, w = .object fields
  target : Spells w targetNames choice.target.text
  known : choice.target ∈ ids
  label : Labels c w choice.label

/-- The text of a scene as it stands, which is empty if there is none. -/
inductive Recounts (v : Value) (text : String) : Prop
  | told {x : Value} : First v textNames x → x.scalar? = some text → Recounts v text
  | untold : (∀ x, First v textNames x → x.scalar? = none) → text = "" → Recounts v text

inductive Lists (v : Value) (items : List Value) : Prop
  | array : First v choiceNames (.array items) → Lists v items
  | lacking : (∀ l, ¬ First v choiceNames (.array l)) → items = [] → Lists v items

/-- A scene of a graph with these scenes, and the object that it was read from. -/
structure Tells (c : StorySettings) (ids : List NodeId) (v : Value) (s : Scene) : Prop where
  text : Recounts v s.text
  options : ∃ items, Lists v items ∧ Picked (Offers c ids) items s.options

theorem first_iff {v x : Value} {names : List String} : First v names x ↔ v.firstFilled? names = some x := by
  refine ⟨fun h => h.1.firstFilled? h.2, fun h => ?_⟩
  induction names with
  | nil => cases h
  | cons name names ih =>
    have hlater : Vacant v name → First v (name :: names) x := by
      intro hvacant
      rw [hvacant.find?_eq] at h
      exact ⟨.later hvacant (ih h).1, (ih h).2⟩
    cases hfield : v.field? name with
    | none => exact hlater (.absent hfield)
    | some y =>
      by_cases hfilled : y.isFilled = true
      · have hfirst : First v (name :: names) y := ⟨.here hfield, hfilled⟩
        rw [hfirst.1.firstFilled? hfilled] at h
        obtain rfl := Option.some.inj h
        exact hfirst
      · -- only null and blank strings are not filled
        apply hlater
        cases y with
        | null => exact .null hfield
        | string s => exact .blank hfield (by simpa [Value.isFilled] using hfilled)
        | bool b => exact absurd rfl hfilled
        | number n => exact absurd rfl hfilled
        | array items => exact absurd rfl hfilled
        | object fields => exact absurd rfl hfilled

theorem firstText?_eq_some_iff {v : Value} {names : List String} {s : String} :
    firstText? v names = some s ↔ Spells v names s ∧ s ≠ "" := by
  constructor
  · intro h
    obtain ⟨t, ht, hs⟩ := Option.bind_eq_some_iff.1 h
    obtain ⟨x, hx, hscalar⟩ := Option.bind_eq_some_iff.1 ht
    obtain ⟨htrim, hne⟩ := Text.trimmed?_eq_some_iff.1 hs
    exact ⟨⟨x, t, (first_iff.2 hx).1, hscalar, htrim⟩, hne⟩
  · rintro ⟨hspells, hs⟩
    obtain ⟨-, t, -, -, ht⟩ := id hspells
    exact hspells.firstText? ⟨hs, by rw [← ht, Text.trim_trim]⟩

theorem object_of_spells {v : Value} {names : List String} {s : String} (h : Spells v names s) :
    ∃ fields, v = .object fields := by
  obtain ⟨x, t, hunder, -⟩ := h
  induction hunder with
  | here hfield => cases v <;> first | exact ⟨_, rfl⟩ | cases hfield
  | later _ _ ih => exact ih

theorem object_iff {v : Value} : v.fields?.isSome = true ↔ ∃ fields, v = .object fields := by
  cases v <;> simp [Value.fields?]

variable (c : StorySettings) (doc : Value)

def declaredUnder? (e : String × Value) : Option (NodeId × Value) :=
  ((Text.trimmed? e.1).map fun id => (⟨id⟩, e.2)).filter fun n => n.2.fields?.isSome

def declaredBy? (v : Value) : Option (NodeId × Value) :=
  ((firstText? v idNames).map fun id => (⟨id⟩, v)).filter fun n => n.2.fields?.isSome

theorem filter_mapEntries (fields : List (String × Value)) :
    ((mapEntries fields).filter fun n => n.2.fields?.isSome) = fields.filterMap declaredUnder? :=
  List.filter_filterMap ..

theorem filter_arrayEntries (items : List Value) :
    ((arrayEntries items).filter fun n => n.2.fields?.isSome) = items.filterMap declaredBy? :=
  List.filter_filterMap ..

theorem declaredUnder?_eq_some_iff {e : String × Value} {n : NodeId × Value} :
    declaredUnder? e = some n ↔ DeclaresEntry e n := by
  rw [declaredUnder?, Option.filter_eq_some_iff, Option.map_eq_some_iff, object_iff]
  constructor
  · rintro ⟨⟨id, hid, rfl⟩, hobject⟩
    obtain ⟨htrim, hne⟩ := Text.trimmed?_eq_some_iff.1 hid
    exact ⟨htrim, hne, rfl, hobject⟩
  · intro h
    have hid := Text.trimmed?_eq_some_iff.2 ⟨h.id, h.nonempty⟩
    exact ⟨⟨n.1.text, hid, Prod.ext rfl h.value⟩, h.value ▸ h.object⟩

theorem declaredBy?_eq_some_iff {v : Value} {n : NodeId × Value} :
    declaredBy? v = some n ↔ DeclaresSection v n := by
  rw [declaredBy?, Option.filter_eq_some_iff, Option.map_eq_some_iff, object_iff]
  constructor
  · rintro ⟨⟨id, hid, rfl⟩, hobject⟩
    obtain ⟨hspells, hne⟩ := firstText?_eq_some_iff.1 hid
    exact ⟨hspells, hne, rfl, hobject⟩
  · intro h
    have hid := firstText?_eq_some_iff.2 ⟨h.id, h.nonempty⟩
    exact ⟨⟨n.1.text, hid, Prod.ext rfl h.value⟩, h.value ▸ h.object⟩

theorem bind_fields?_eq_some_iff {v : Option Value} {fields : List (String × Value)} :
    v.bind Value.fields? = some fields ↔ v = some (.object fields) := by
  rcases v with _ | v
  · simp
  · cases v <;> simp [Value.fields?]

theorem bind_items?_eq_some_iff {v : Option Value} {items : List Value} :
    v.bind Value.items? = some items ↔ v = some (.array items) := by
  rcases v with _ | v
  · simp
  · cases v <;> simp [Value.items?]

theorem named_of_scenes {doc : Value} {fields : List (String × Value)}
    (h : doc.field? "scenes" = some (.object fields)) : named doc = fields.filterMap declaredUnder? := by
  simp [named, entries?, mapNames, bind_fields?_eq_some_iff.2 h, filter_mapEntries]

theorem named_of_nodes {doc : Value} {fields : List (String × Value)}
    (hscenes : ∀ fs, doc.field? "scenes" ≠ some (.object fs))
    (h : doc.field? "nodes" = some (.object fields)) : named doc = fields.filterMap declaredUnder? := by
  simp [named, entries?, mapNames, bind_fields?_eq_none hscenes, bind_fields?_eq_some_iff.2 h,
    filter_mapEntries]

theorem named_of_no_map {doc : Value} (hscenes : ∀ fs, doc.field? "scenes" ≠ some (.object fs))
    (hnodes : ∀ fs, doc.field? "nodes" ≠ some (.object fs)) :
    named doc = (((doc.field? "sections").bind Value.items?).getD []).filterMap declaredBy? := by
  rw [← filter_arrayEntries]
  cases h : (doc.field? "sections").bind Value.items? <;>
    simp [named, entries?, mapNames, arrayNames, bind_fields?_eq_none hscenes, bind_fields?_eq_none hnodes, h,
      arrayEntries]

theorem exists_map_or_none (doc : Value) (name : String) :
    (∃ fields, doc.field? name = some (.object fields)) ∨ ∀ fs, doc.field? name ≠ some (.object fs) := by
  by_cases h : ∃ fields, doc.field? name = some (.object fields)
  · exact .inl h
  · exact .inr fun fs hfs => h ⟨fs, hfs⟩

theorem declares_named (doc : Value) : Declares doc (named doc) := by
  rcases exists_map_or_none doc "scenes" with ⟨fields, hscenes⟩ | hscenes
  · rw [named_of_scenes hscenes]
    exact .scenes hscenes (picked_filterMap (fun _ _ => declaredUnder?_eq_some_iff) fields)
  rcases exists_map_or_none doc "nodes" with ⟨fields, hnodes⟩ | hnodes
  · rw [named_of_nodes hscenes hnodes]
    exact .nodes hscenes hnodes (picked_filterMap (fun _ _ => declaredUnder?_eq_some_iff) fields)
  rw [named_of_no_map hscenes hnodes]
  cases hsections : (doc.field? "sections").bind Value.items? with
  | some items =>
    have hfield := bind_items?_eq_some_iff.1 hsections
    exact .sections hscenes hnodes hfield (picked_filterMap (fun _ _ => declaredBy?_eq_some_iff) items)
  | none =>
    refine .nowhere hscenes hnodes (fun items hitems => ?_) rfl
    rw [bind_items?_eq_some_iff.2 hitems] at hsections
    cases hsections

variable (c : StorySettings)

theorem recounts_textOf (v : Value) : Recounts v (textOf v) := by
  unfold textOf
  cases h : (v.firstFilled? textNames).bind Value.scalar? with
  | some text =>
    obtain ⟨x, hx, hscalar⟩ := Option.bind_eq_some_iff.1 h
    exact .told (first_iff.2 hx) hscalar
  | none =>
    refine .untold (fun x hx => ?_) rfl
    rwa [first_iff.1 hx] at h

theorem lists_itemsOf (v : Value) : Lists v (itemsOf v) := by
  unfold itemsOf
  cases h : (v.firstFilled? choiceNames).bind Value.items? with
  | some items => exact .array (first_iff.2 (bind_items?_eq_some_iff.1 h))
  | none =>
    refine .lacking (fun l hl => ?_) rfl
    simp [bind_items?_eq_some_iff.2 (first_iff.1 hl)] at h

theorem labels_iff {w : Value} {label : String} :
    (firstText? w labelNames).getD c.continueLabel = label ↔ Labels c w label := by
  constructor
  · intro h
    cases hlabel : firstText? w labelNames with
    | some s =>
      rw [hlabel] at h
      obtain rfl : s = label := h
      obtain ⟨hspells, hne⟩ := firstText?_eq_some_iff.1 hlabel
      exact .own hspells hne
    | none =>
      rw [hlabel] at h
      refine .lacking (fun s hs => ?_) h.symm
      by_contra hne
      rw [firstText?_eq_some_iff.2 ⟨hs, hne⟩] at hlabel
      cases hlabel
  · rintro (⟨hspells, hne⟩ | ⟨hlacking, hlabel⟩)
    · rw [firstText?_eq_some_iff.2 ⟨hspells, hne⟩, Option.getD_some]
    · cases hs : firstText? w labelNames with
      | none => exact hlabel.symm
      | some s =>
        obtain ⟨hspells, hne⟩ := firstText?_eq_some_iff.1 hs
        exact absurd (hlacking s hspells) hne

theorem choice?_eq_some_iff {w : Value} {choice : Choice} : choice? c w = some choice ↔
    (Spells w targetNames choice.target.text ∧ choice.target.text ≠ "") ∧ Labels c w choice.label := by
  rw [← firstText?_eq_some_iff, ← labels_iff]
  cases h : firstText? w targetNames with
  | none => simp [choice?, h]
  | some target =>
    obtain ⟨label, ⟨id⟩⟩ := choice
    simp [choice?, h, and_comm]

theorem options_within (ids : List NodeId) (id : NodeId) (v : Value) : ((sceneOf c id v).within ids).options =
    (itemsOf v).filterMap fun w => (choice? c w).filter fun choice => choice.target ∈ ids :=
  List.filter_filterMap ..

/-- The scenes are not named by blank texts, so that a choice that leads to one has a target of its own. -/
theorem offers_iff {ids : List NodeId} (hids : ∀ id ∈ ids, id.text ≠ "") {w : Value} {choice : Choice} :
    ((choice? c w).filter fun choice => choice.target ∈ ids) = some choice ↔ Offers c ids w choice := by
  rw [Option.filter_eq_some_iff, choice?_eq_some_iff, decide_eq_true_iff]
  constructor
  · rintro ⟨⟨⟨htarget, -⟩, hlabel⟩, hknown⟩
    exact ⟨object_of_spells htarget, htarget, hknown, hlabel⟩
  · intro h
    exact ⟨⟨⟨h.target, hids _ h.known⟩, h.label⟩, h.known⟩

theorem trimmed_named {doc : Value} {n : NodeId × Value} (h : n ∈ named doc) : Text.Trimmed n.1.text := by
  have hentries := (List.mem_filter.1 h).1
  cases he : entries? doc with
  | none =>
    rw [he] at hentries
    cases hentries
  | some entries =>
    rw [he] at hentries
    exact trimmed_entries? he n hentries

theorem nonempty_of_mem_ids {doc : Value} : ∀ id ∈ (Graph.ofDocument c doc).ids, id.text ≠ "" := by
  intro id hid
  obtain ⟨n, hn, rfl⟩ := List.mem_map.1 ((Graph.mem_ids_ofDocument c doc).1 hid)
  exact (trimmed_named hn).nonempty

theorem tells_within {doc : Value} (id : NodeId) (v : Value) :
    Tells c (Graph.ofDocument c doc).ids v ((sceneOf c id v).within (Graph.ofDocument c doc).ids) := by
  refine ⟨recounts_textOf v, itemsOf v, lists_itemsOf v, ?_⟩
  rw [options_within]
  exact picked_filterMap (fun w choice => offers_iff c (nonempty_of_mem_ids c)) (itemsOf v)

end Dialect

open Dialect

/-- The scenes of a graph are the names that its document declares, in the order in which they come first,
and each of them is read from the last object that is declared under its name. -/
theorem Graph.declared_first_told_last (c : StorySettings) (doc : Value) :
    ∃ named, Declares doc named ∧ (ofDocument c doc).ids = (named.map Prod.fst).eraseDups ∧
      ∀ id ∈ (ofDocument c doc).ids, ∃ before v after s, named = before ++ (id, v) :: after ∧
        (∀ e ∈ after, e.1 ≠ id) ∧ (ofDocument c doc).scene? id = some s ∧ s.id = id ∧
        Tells c (ofDocument c doc).ids v s := by
  refine ⟨named doc, declares_named doc, ids_ofDocument c doc, fun id hid => ?_⟩
  cases hlast : Table.last? (named doc) id with
  | none =>
    have hno := (Table.last?_eq_none_iff _ id).1 hlast
    exact absurd ((mem_ids_ofDocument c doc).1 hid) hno
  | some v =>
    obtain ⟨before, after, hnamed, hafter⟩ := Table.exists_of_last? hlast
    have hscene : (ofDocument c doc).scene? id = some ((sceneOf c id v).within (ofDocument c doc).ids) := by
      rw [scene?_ofDocument, hlast, Option.map_some]
    exact ⟨before, v, after, _, hnamed, hafter, hscene, rfl, tells_within c id v⟩

/-- A hall that is told twice, under a text and under a number, with a stray remark in between. -/
def toldTwice : Value := .object [
  ("sections", .array [
    .object [("id", .string " 1 "), ("text", .string "A hall.")],
    .string "A remark.",
    .object [("id", .string "2"), ("text", .string "A yard.")],
    .object [("key", .number (.natural 1)), ("text", .string "The hall again."),
      ("choices", .array [.object [("to", .string "2 ")], .object [("to", .string "3")]])]])]

theorem Graph.declared_first_told_last_in_the_hall :
    ∃ named, Declares toldTwice named ∧ (named.map Prod.fst).eraseDups = [⟨"1"⟩, ⟨"2"⟩] ∧
      ∃ v after s, (⟨"1"⟩, v) :: after <:+ named ∧ (∀ e ∈ after, e.1 ≠ ⟨"1"⟩) ∧
        (ofDocument {} toldTwice).scene? ⟨"1"⟩ = some s ∧ s.text = "The hall again." ∧
        s.options = [⟨"Continue", ⟨"2"⟩⟩] ∧ Tells {} [⟨"1"⟩, ⟨"2"⟩] v s := by
  have hids : (ofDocument {} toldTwice).ids = [⟨"1"⟩, ⟨"2"⟩] := by decide +kernel
  have hscene : (ofDocument {} toldTwice).scene? ⟨"1"⟩ =
      some ⟨⟨"1"⟩, "The hall again.", [⟨"Continue", ⟨"2"⟩⟩]⟩ := by decide +kernel
  obtain ⟨named, hdeclares, hnamed, hall⟩ := declared_first_told_last {} toldTwice
  obtain ⟨before, v, after, s, rfl, hafter, hs, -, htells⟩ := hall ⟨"1"⟩ (by rw [hids]; decide)
  rw [hids] at hnamed htells
  obtain rfl := Option.some.inj (hscene.symm.trans hs)
  exact ⟨_, hdeclares, hnamed.symm, v, after, _, List.suffix_append _ _, hafter, hscene, rfl, rfl, htells⟩

end Story
end Gamebook
