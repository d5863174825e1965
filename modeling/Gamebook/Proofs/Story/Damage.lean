import Gamebook.Proofs.Story.Declared

/-! Damage to a story document stays where it is done. Two documents that agree but for one entry of their
collection declare the same names but for those of this entry; two that agree but for one element of the
choices of a scene declare the same names, and the scene differs in one choice at most. The main statement
is `damage_stays_local`. -/
namespace Gamebook

/-- Two lists that agree but for one place, where each of them may have an element. -/
def Patched {α : Type} (o o' : Option α) (l l' : List α) : Prop :=
  ∃ before after, l = before ++ o.toList ++ after ∧ l' = before ++ o'.toList ++ after

namespace Patched

variable {α β : Type} {o o' : Option α} {l l' : List α}

theorem same (l : List α) : Patched none none l l := ⟨l, [], by simp, by simp⟩

theorem filterMap (h : Patched o o' l l') (f : α → Option β) :
    Patched (o.bind f) (o'.bind f) (l.filterMap f) (l'.filterMap f) := by
  obtain ⟨before, after, rfl, rfl⟩ := h
  have hone : ∀ a : Option α, a.toList.filterMap f = (a.bind f).toList := by
    intro a
    cases a with
    | none => rfl
    | some a => cases h : f a <;> simp [h]
  refine ⟨before.filterMap f, after.filterMap f, ?_, ?_⟩ <;>
    rw [List.filterMap_append, List.filterMap_append, hone]

theorem filter_eq (h : Patched o o' l l') {p : α → Bool} (ho : ∀ a ∈ o, p a = false)
    (ho' : ∀ a ∈ o', p a = false) : l'.filter p = l.filter p := by
  have hnone : ∀ a : Option α, (∀ b ∈ a, p b = false) → a.toList.filter p = [] := by
    intro a ha
    cases a with
    | none => rfl
    | some b => simp [ha b rfl]
  obtain ⟨before, after, rfl, rfl⟩ := h
  simp only [List.filter_append, hnone o ho, hnone o' ho']

end Patched

namespace Table

variable {κ α : Type} [DecidableEq κ]

theorem filter_eraseDups (ks : List κ) (p : κ → Bool) : ks.eraseDups.filter p = (ks.filter p).eraseDups := by
  induction ks using List.reverseRecOn with
  | nil => rfl
  | append_singleton ks k ih =>
    rw [eraseDups_concat, List.filter_append]
    by_cases hp : p k = true
    · have hlast : [k].filter p = [k] := by simp [hp]
      rw [hlast, eraseDups_concat]
      by_cases hk : k ∈ ks <;> simp [hk, hp, ih]
    · by_cases hk : k ∈ ks <;> simp [hk, hp, ih]

theorem last?_patched {o o' : Option (κ × α)} {es es' : List (κ × α)} (h : Patched o o' es es') {k : κ}
    (ho : ∀ e ∈ o, e.1 ≠ k) (ho' : ∀ e ∈ o', e.1 ≠ k) : last? es' k = last? es k := by
  have hnone : ∀ a : Option (κ × α), (∀ e ∈ a, e.1 ≠ k) → last? a.toList k = none := by
    intro a ha
    rw [last?_eq_none_iff]
    cases a with
    | none => simp
    | some e => simpa using Ne.symm (ha e rfl)
  obtain ⟨before, after, rfl, rfl⟩ := h
  simp only [last?_append, hnone o ho, hnone o' ho']

/-- At the key that stands at the one place, either both lists have the element there, or a later one. -/
theorem last?_patched_self {k : κ} {v v' : α} {es es' : List (κ × α)}
    (h : Patched (some (k, v)) (some (k, v')) es es') :
    last? es' k = last? es k ∨ last? es k = some v ∧ last? es' k = some v' := by
  obtain ⟨before, after, rfl, rfl⟩ := h
  simp only [last?_append, Option.toList_some, last?_singleton, if_true]
  cases last? after k with
  | some w => exact .inl rfl
  | none => exact .inr ⟨rfl, rfl⟩

end Table

namespace Story

open Json (Value)

structure Differ (v v' : Value) (name : String) (x x' : Value) : Prop where
  before : v.field? name = some x
  after : v'.field? name = some x'
  elsewhere : ∀ other, other ≠ name → v'.field? other = v.field? other

namespace Differ

variable {v v' x x' : Value} {name : String}

theorem object (h : Differ v v' name x x') : v.fields?.isSome = true ∧ v'.fields?.isSome = true := by
  constructor
  · have hfield := h.before
    cases v <;> first | rfl | cases hfield
  · have hfield := h.after
    cases v' <;> first | rfl | cases hfield

theorem firstFilled?_eq (h : Differ v v' name x x') {names : List String} (hname : name ∉ names) :
    v'.firstFilled? names = v.firstFilled? names := by
  have hfields : names.filterMap v'.field? = names.filterMap v.field? := by
    apply List.filterMap_congr
    intro other hother
    apply h.elsewhere
    rintro rfl
    exact hname hother
  rw [Value.firstFilled?, hfields, Value.firstFilled?]

/-- Whatever is filled before the one field is found in both, and otherwise what stands there. -/
theorem firstFilled?_cases (h : Differ v v' name x x') (hx : x.isFilled = true) (hx' : x'.isFilled = true)
    (names : List String) : v'.firstFilled? names = v.firstFilled? names ∨
      v.firstFilled? names = some x ∧ v'.firstFilled? names = some x' := by
  induction names with
  | nil => exact .inl rfl
  | cons other names ih =>
    by_cases hname : other = name
    · subst hname
      right
      simp [Value.firstFilled?, h.before, h.after, hx, hx']
    · unfold Value.firstFilled? at ih ⊢
      rw [List.filterMap_cons, List.filterMap_cons, h.elsewhere other hname]
      cases hfield : v.field? other with
      | none => exact ih
      | some y =>
        simp only [List.find?_cons]
        cases y.isFilled with
        | true => exact .inl rfl
        | false => exact ih

end Differ

namespace Dialect

/-- Two documents that agree but for one entry of one of their collections, which bears these names. -/
inductive EntryDiffers (doc doc' : Value) (ids : List NodeId) : Prop
  | map {name : String} {fields fields' : List (String × Value)} {e e' : String × Value} :
      name ∈ mapNames → Differ doc doc' name (.object fields) (.object fields') →
      Patched (some e) (some e') fields fields' →
      (∀ id, id ∈ ids ↔ id.text = Text.trim e.1 ∨ id.text = Text.trim e'.1) → EntryDiffers doc doc' ids
  | array {name : String} {items items' : List Value} {v v' : Value} :
      name ∈ arrayNames → Differ doc doc' name (.array items) (.array items') →
      Patched (some v) (some v') items items' →
      (∀ id, id ∈ ids ↔ Spells v idNames id.text ∨ Spells v' idNames id.text) → EntryDiffers doc doc' ids

def ElementDiffers (v v' x x' : Value) : Prop :=
  ∃ name ∈ choiceNames, ∃ items items', Differ v v' name (.array items) (.array items') ∧
    Patched (some x) (some x') items items'

/-- Two documents that agree but for one element of the choices of one scene. -/
inductive ChoiceDiffers (doc doc' : Value) (id : NodeId) (x x' : Value) : Prop
  | map {name : String} {fields fields' : List (String × Value)} {key : String} {v v' : Value} :
      name ∈ mapNames → Differ doc doc' name (.object fields) (.object fields') →
      Patched (some (key, v)) (some (key, v')) fields fields' → DeclaresEntry (key, v) (id, v) →
      ElementDiffers v v' x x' → ChoiceDiffers doc doc' id x x'
  | array {name : String} {items items' : List Value} {v v' : Value} :
      name ∈ arrayNames → Differ doc doc' name (.array items) (.array items') →
      Patched (some v) (some v') items items' → DeclaresSection v (id, v) →
      ElementDiffers v v' x x' → ChoiceDiffers doc doc' id x x'

variable {doc doc' : Value} {name : String}

theorem named_map {fields fields' : List (String × Value)} (hname : name ∈ mapNames)
    (h : Differ doc doc' name (.object fields) (.object fields')) : named doc' = named doc ∨
      named doc = fields.filterMap declaredUnder? ∧ named doc' = fields'.filterMap declaredUnder? := by
  have hcases : name = "scenes" ∨ name = "nodes" := by simpa [mapNames] using hname
  rcases hcases with rfl | rfl
  · exact .inr ⟨named_of_scenes h.before, named_of_scenes h.after⟩
  · -- the nodes are read only if there is no map of scenes, in both documents alike
    have hsame := h.elsewhere "scenes" (by decide)
    rcases exists_map_or_none doc "scenes" with ⟨fs, hscenes⟩ | hscenes
    · left
      rw [named_of_scenes hscenes, named_of_scenes (hsame.trans hscenes)]
    · right
      exact ⟨named_of_nodes hscenes h.before, named_of_nodes (hsame ▸ hscenes) h.after⟩

theorem named_array {items items' : List Value} (hname : name ∈ arrayNames)
    (h : Differ doc doc' name (.array items) (.array items')) : named doc' = named doc ∨
      named doc = items.filterMap declaredBy? ∧ named doc' = items'.filterMap declaredBy? := by
  obtain rfl : name = "sections" := by simpa [arrayNames] using hname
  have hsame := h.elsewhere "scenes" (by decide)
  have hsame' := h.elsewhere "nodes" (by decide)
  rcases exists_map_or_none doc "scenes" with ⟨fs, hscenes⟩ | hscenes
  · left
    rw [named_of_scenes hscenes, named_of_scenes (hsame.trans hscenes)]
  rcases exists_map_or_none doc "nodes" with ⟨fs, hnodes⟩ | hnodes
  · left
    rw [named_of_nodes hscenes hnodes, named_of_nodes (hsame ▸ hscenes) (hsame'.trans hnodes)]
  right
  rw [named_of_no_map hscenes hnodes, named_of_no_map (hsame ▸ hscenes) (hsame' ▸ hnodes), h.before, h.after]
  exact ⟨rfl, rfl⟩

theorem start_eq_of_differ (c : StorySettings) {x x' : Value} (h : Differ doc doc' name x x')
    (hname : name ∉ startNames) : start c doc' = start c doc := by
  rw [start, firstText?, h.firstFilled?_eq hname, start, firstText?]

theorem notMem_startNames (h : name ∈ mapNames ∨ name ∈ arrayNames) : name ∉ startNames := by
  have hcases : (name = "scenes" ∨ name = "nodes") ∨ name = "sections" := by
    simpa [mapNames, arrayNames] using h
  rcases hcases with (rfl | rfl) | rfl <;> decide

theorem EntryDiffers.start_eq (c : StorySettings) {ids : List NodeId} (h : EntryDiffers doc doc' ids) :
    start c doc' = start c doc := by
  cases h with
  | map hname h => exact start_eq_of_differ c h (notMem_startNames (.inl hname))
  | array hname h => exact start_eq_of_differ c h (notMem_startNames (.inr hname))

theorem ChoiceDiffers.start_eq (c : StorySettings) {id : NodeId} {x x' : Value}
    (h : ChoiceDiffers doc doc' id x x') : start c doc' = start c doc := by
  cases h with
  | map hname h => exact start_eq_of_differ c h (notMem_startNames (.inl hname))
  | array hname h => exact start_eq_of_differ c h (notMem_startNames (.inr hname))

/-- The names declared differ in one place at most, and in these names only. -/
theorem EntryDiffers.named {ids : List NodeId} (h : EntryDiffers doc doc' ids) :
    ∃ o o', Patched o o' (named doc) (named doc') ∧ (∀ n ∈ o, n.1 ∈ ids) ∧ ∀ n ∈ o', n.1 ∈ ids := by
  have hsame : Dialect.named doc' = Dialect.named doc → ∃ o o', Patched o o' (Dialect.named doc)
      (Dialect.named doc') ∧ (∀ n ∈ o, n.1 ∈ ids) ∧ ∀ n ∈ o', n.1 ∈ ids := by
    intro heq
    rw [heq]
    exact ⟨none, none, .same _, by simp, by simp⟩
  cases h with
  | @map _ fields fields' e e' hname h hpatched hids =>
    rcases named_map hname h with heq | ⟨hnamed, hnamed'⟩
    · exact hsame heq
    · rw [hnamed, hnamed']
      refine ⟨declaredUnder? e, declaredUnder? e', hpatched.filterMap _, fun n hn => ?_, fun n hn => ?_⟩
      · exact (hids n.1).2 (.inl (declaredUnder?_eq_some_iff.1 hn).id.symm)
      · exact (hids n.1).2 (.inr (declaredUnder?_eq_some_iff.1 hn).id.symm)
  | @array _ items items' v v' hname h hpatched hids =>
    rcases named_array hname h with heq | ⟨hnamed, hnamed'⟩
    · exact hsame heq
    · rw [hnamed, hnamed']
      refine ⟨declaredBy? v, declaredBy? v', hpatched.filterMap _, fun n hn => ?_, fun n hn => ?_⟩
      · exact (hids n.1).2 (.inl (declaredBy?_eq_some_iff.1 hn).id)
      · exact (hids n.1).2 (.inr (declaredBy?_eq_some_iff.1 hn).id)

theorem notMem_of_mem_choiceNames : ∀ name ∈ choiceNames, name ∉ idNames ∧ name ∉ textNames := by decide

namespace ElementDiffers

variable {v v' x x' : Value}

theorem object (h : ElementDiffers v v' x x') : v.fields?.isSome = true ∧ v'.fields?.isSome = true := by
  obtain ⟨name, -, items, items', h, -⟩ := h
  exact h.object

theorem firstText?_eq (h : ElementDiffers v v' x x') : firstText? v' idNames = firstText? v idNames := by
  obtain ⟨name, hname, items, items', h, -⟩ := h
  rw [firstText?, h.firstFilled?_eq (notMem_of_mem_choiceNames name hname).1, firstText?]

theorem textOf_eq (h : ElementDiffers v v' x x') : textOf v' = textOf v := by
  obtain ⟨name, hname, items, items', h, -⟩ := h
  rw [textOf, h.firstFilled?_eq (notMem_of_mem_choiceNames name hname).2, textOf]

theorem patched_itemsOf (h : ElementDiffers v v' x x') :
    ∃ o o', Patched o o' (itemsOf v) (itemsOf v') ∧ (∀ w ∈ o, w = x) ∧ ∀ w ∈ o', w = x' := by
  obtain ⟨name, hname, items, items', h, hpatched⟩ := h
  unfold itemsOf
  rcases h.firstFilled?_cases rfl rfl choiceNames with heq | ⟨hitems, hitems'⟩
  · rw [heq]
    exact ⟨none, none, .same _, by simp, by simp⟩
  · rw [hitems, hitems']
    exact ⟨some x, some x', hpatched, by simp, by simp⟩

end ElementDiffers

/-- The names declared are the same, and at most one of them differs in what stands under it. -/
theorem ChoiceDiffers.named {id : NodeId} {x x' : Value} (h : ChoiceDiffers doc doc' id x x') :
    Dialect.named doc' = Dialect.named doc ∨ ∃ v v', ElementDiffers v v' x x' ∧
      Patched (some (id, v)) (some (id, v')) (Dialect.named doc) (Dialect.named doc') := by
  cases h with
  | @map _ fields fields' key v v' hname h hpatched hentry helement =>
    rcases named_map hname h with heq | ⟨hnamed, hnamed'⟩
    · exact .inl heq
    · have hentry' : DeclaresEntry (key, v') (id, v') :=
        ⟨hentry.id, hentry.nonempty, rfl, object_iff.1 helement.object.2⟩
      have hboth := hpatched.filterMap declaredUnder?
      rw [Option.bind_some, Option.bind_some, declaredUnder?_eq_some_iff.2 hentry, declaredUnder?_eq_some_iff.2 hentry',
        ← hnamed, ← hnamed'] at hboth
      exact .inr ⟨v, v', helement, hboth⟩
  | @array _ items items' v v' hname h hpatched hsection helement =>
    rcases named_array hname h with heq | ⟨hnamed, hnamed'⟩
    · exact .inl heq
    · have hspells : Spells v' idNames id.text := by
        have hid := firstText?_eq_some_iff.2 ⟨hsection.id, hsection.nonempty⟩
        rw [← helement.firstText?_eq] at hid
        exact (firstText?_eq_some_iff.1 hid).1
      have hsection' : DeclaresSection v' (id, v') :=
        ⟨hspells, hsection.nonempty, rfl, object_iff.1 helement.object.2⟩
      have hboth := hpatched.filterMap declaredBy?
      rw [Option.bind_some, Option.bind_some, declaredBy?_eq_some_iff.2 hsection, declaredBy?_eq_some_iff.2 hsection',
        ← hnamed, ← hnamed'] at hboth
      exact .inr ⟨v, v', helement, hboth⟩

end Dialect

open Dialect

def Scene.without (ids : List NodeId) (s : Scene) : Scene :=
  { s with options := s.options.filter fun choice => choice.target ∉ ids }

theorem Scene.without_within {ids js js' : List NodeId} (h : ∀ id, id ∉ ids → (id ∈ js' ↔ id ∈ js)) (s : Scene) :
    (s.within js').without ids = (s.within js).without ids := by
  have hoptions : ((s.within js').without ids).options = ((s.within js).without ids).options := by
    change (s.options.filter _).filter _ = (s.options.filter _).filter _
    rw [List.filter_filter, List.filter_filter]
    apply List.filter_congr
    intro choice _
    by_cases hid : choice.target ∈ ids
    · simp [hid]
    · simp [hid, h choice.target hid]
  exact congrArg (Scene.mk s.id s.text) hoptions

namespace Graph

variable (c : StorySettings) {doc doc' : Value}

/-- Two graphs that are the same but for these scenes, and the choices that lead to them. -/
structure SameBut (g g' : Graph) (ids : List NodeId) : Prop where
  start : g'.start = g.start
  order : (g'.ids.filter fun id => id ∉ ids) = g.ids.filter fun id => id ∉ ids
  scenes : ∀ id, id ∉ ids → (g'.scene? id).map (Scene.without ids) = (g.scene? id).map (Scene.without ids)

/-- Two graphs that are the same but for one choice of one scene. -/
structure SameButChoice (c : StorySettings) (g g' : Graph) (id : NodeId) (x x' : Value) : Prop where
  start : g'.start = g.start
  order : g'.ids = g.ids
  scenes : ∀ other, other ≠ id → g'.scene? other = g.scene? other
  choice : ∀ s, g.scene? id = some s → ∃ o o' options', g'.scene? id = some { s with options := options' } ∧
    Patched o o' s.options options' ∧ (∀ choice ∈ o, Offers c g.ids x choice) ∧
    ∀ choice ∈ o', Offers c g.ids x' choice

theorem SameBut.mem_ids_iff {g g' : Graph} {ids : List NodeId} {id : NodeId}
    (h : (g'.ids.filter fun id => id ∉ ids) = g.ids.filter fun id => id ∉ ids) (hid : id ∉ ids) :
    id ∈ g'.ids ↔ id ∈ g.ids := by
  have hmem : id ∈ (g'.ids.filter fun id => id ∉ ids) ↔ id ∈ g.ids.filter fun id => id ∉ ids := by rw [h]
  simpa [hid] using hmem

theorem sameBut_of_entryDiffers {ids : List NodeId} (h : EntryDiffers doc doc' ids) :
    SameBut (ofDocument c doc) (ofDocument c doc') ids := by
  obtain ⟨o, o', hpatched, ho, ho'⟩ := h.named
  have horder : ((ofDocument c doc').ids.filter fun id => id ∉ ids) =
      (ofDocument c doc).ids.filter fun id => id ∉ ids := by
    rw [ids_ofDocument, ids_ofDocument, Table.filter_eraseDups, Table.filter_eraseDups, List.filter_map,
      List.filter_map, hpatched.filter_eq]
    · intro n hn
      simpa using ho n hn
    · intro n hn
      simpa using ho' n hn
  refine ⟨?_, horder, fun id hid => ?_⟩
  · rw [start_ofDocument, start_ofDocument, h.start_eq]
  · have hne : ∀ {a : Option (NodeId × Value)}, (∀ n ∈ a, n.1 ∈ ids) → ∀ n ∈ a, n.1 ≠ id := by
      rintro a ha n hn rfl
      exact hid (ha n hn)
    rw [scene?_ofDocument, scene?_ofDocument, Table.last?_patched hpatched (hne ho) (hne ho'), Option.map_map,
      Option.map_map]
    congr 1
    funext v
    exact Scene.without_within (fun _ hother => SameBut.mem_ids_iff horder hother) _

theorem ids_eq_of_map_fst_eq (h : (Dialect.named doc').map Prod.fst = (Dialect.named doc).map Prod.fst) :
    (ofDocument c doc').ids = (ofDocument c doc).ids := by
  rw [ids_ofDocument, ids_ofDocument, h]

theorem patched_options {ids : List NodeId} (hids : ∀ id ∈ ids, id.text ≠ "") {v v' x x' : Value}
    (h : ElementDiffers v v' x x') (id : NodeId) :
    ∃ o o', Patched o o' ((sceneOf c id v).within ids).options ((sceneOf c id v').within ids).options ∧
      (∀ choice ∈ o, Offers c ids x choice) ∧ ∀ choice ∈ o', Offers c ids x' choice := by
  have hone : ∀ {a : Option Value} {w : Value}, (∀ u ∈ a, u = w) → ∀ choice ∈ a.bind fun u =>
      (choice? c u).filter fun choice => choice.target ∈ ids, Offers c ids w choice := by
    intro a w ha choice hchoice
    obtain ⟨u, hu, hoffer⟩ := Option.bind_eq_some_iff.1 hchoice
    rw [ha u hu] at hoffer
    exact (offers_iff c hids).1 hoffer
  obtain ⟨o, o', hpatched, ho, ho'⟩ := h.patched_itemsOf
  rw [options_within, options_within]
  exact ⟨_, _, hpatched.filterMap _, hone ho, hone ho'⟩

theorem sameButChoice_of_named_eq {id : NodeId} {x x' : Value}
    (hstart : Dialect.start c doc' = Dialect.start c doc) (h : Dialect.named doc' = Dialect.named doc) :
    SameButChoice c (ofDocument c doc) (ofDocument c doc') id x x' := by
  have hids : (ofDocument c doc').ids = (ofDocument c doc).ids := ids_eq_of_map_fst_eq c (by rw [h])
  have hscenes : ∀ other, (ofDocument c doc').scene? other = (ofDocument c doc).scene? other := by
    intro other
    rw [scene?_ofDocument, scene?_ofDocument, h, hids]
  refine ⟨by rw [start_ofDocument, start_ofDocument, hstart], hids, fun other _ => hscenes other, ?_⟩
  intro s hs
  exact ⟨none, none, s.options, (hscenes id).trans hs, .same _, by simp, by simp⟩

theorem sameButChoice_of_choiceDiffers {id : NodeId} {x x' : Value} (h : ChoiceDiffers doc doc' id x x') :
    SameButChoice c (ofDocument c doc) (ofDocument c doc') id x x' := by
  rcases h.named with hnamed | ⟨v, v', helement, hpatched⟩
  · exact sameButChoice_of_named_eq c (h.start_eq c) hnamed
  have hids : (ofDocument c doc').ids = (ofDocument c doc).ids := by
    apply ids_eq_of_map_fst_eq
    obtain ⟨before, after, hnamed, hnamed'⟩ := hpatched
    simp [hnamed, hnamed']
  refine ⟨by rw [start_ofDocument, start_ofDocument, h.start_eq], hids, fun other hother => ?_, fun s hs => ?_⟩
  · have hne : ∀ w : Value, ∀ n ∈ some (id, w), n.1 ≠ other := by
      rintro w n hn rfl
      obtain rfl := Option.some.inj hn
      exact hother rfl
    rw [scene?_ofDocument, scene?_ofDocument, Table.last?_patched hpatched (hne v) (hne v'), hids]
  · rw [scene?_ofDocument] at hs
    rw [scene?_ofDocument, hids]
    rcases Table.last?_patched_self hpatched with heq | ⟨hlast, hlast'⟩
    · exact ⟨none, none, s.options, by rw [heq, hs], .same _, by simp, by simp⟩
    · rw [hlast] at hs
      obtain rfl := Option.some.inj hs
      obtain ⟨o, o', hoptions, ho, ho'⟩ := patched_options c (nonempty_of_mem_ids c) helement id
      refine ⟨o, o', _, ?_, hoptions, ho, ho'⟩
      rw [hlast']
      exact congrArg some (congrArg (fun text => Scene.mk id text _) helement.textOf_eq)

end Graph

/-- Another entry in place of one touches the scenes that these entries name, and the choices that lead to
them; another element in place of one touches the choice that it gives. -/
theorem damage_stays_local (c : StorySettings) (doc doc' : Value) :
    (∀ ids, EntryDiffers doc doc' ids → Graph.SameBut (.ofDocument c doc) (.ofDocument c doc') ids) ∧
      ∀ id x x', ChoiceDiffers doc doc' id x x' →
        Graph.SameButChoice c (.ofDocument c doc) (.ofDocument c doc') id x x' :=
  ⟨fun _ h => Graph.sameBut_of_entryDiffers c h, fun _ _ _ h => Graph.sameButChoice_of_choiceDiffers c h⟩

theorem differ_object (before : List (String × Value)) {name : String} (h : name ∉ before.map Prod.fst)
    (after : List (String × Value)) (x x' : Value) :
    Differ (.object (before ++ (name, x) :: after)) (.object (before ++ (name, x') :: after)) name x x' := by
  induction before with
  | nil =>
    refine ⟨if_pos rfl, if_pos rfl, fun other hother => ?_⟩
    simp [Value.field?, Value.fields?, Table.get?_cons, Ne.symm hother]
  | cons e before ih =>
    obtain ⟨key, y⟩ := e
    obtain ⟨hkey, hbefore⟩ := not_or.1 (mt List.mem_cons.2 h)
    have hskip : ∀ fields, (Value.object ((key, y) :: fields)).field? name = (Value.object fields).field? name :=
      fun fields => if_neg (Ne.symm hkey)
    have hrest := ih hbefore
    refine ⟨(hskip _).trans hrest.before, (hskip _).trans hrest.after, fun other hother => ?_⟩
    have htail := hrest.elsewhere other hother
    simp only [Value.field?, Value.fields?, Option.bind_some] at htail ⊢
    rw [List.cons_append, List.cons_append, Table.get?_cons, Table.get?_cons, htail]

def hall (offer : Value) : Value := .object [("text", .string "A hall."),
  ("options", .array [.object [("to", .string " hall")], offer, .object [("to", .string "loft")]])]

def inn (hall loft : Value) : Value :=
  .object [("start", .string "hall"), ("nodes", .object [("hall ", hall), ("loft", loft)])]

def wayUp : Value := .object [("label", .string "Up"), ("to", .string "loft")]

/-- With its loft in ruins, the inn still has its hall; with a blot on one way up, the hall still has the
others. -/
theorem damage_stays_local_in_the_inn :
    EntryDiffers (inn (hall wayUp) (.object [])) (inn (hall wayUp) (.string "ruins")) [⟨"loft"⟩] ∧
      ChoiceDiffers (inn (hall wayUp) (.object [])) (inn (hall .null) (.object [])) ⟨"hall"⟩ wayUp .null ∧
      Graph.SameBut (.ofDocument {} (inn (hall wayUp) (.object [])))
        (.ofDocument {} (inn (hall wayUp) (.string "ruins"))) [⟨"loft"⟩] ∧
      Graph.SameButChoice {} (.ofDocument {} (inn (hall wayUp) (.object [])))
        (.ofDocument {} (inn (hall .null) (.object []))) ⟨"hall"⟩ wayUp .null := by
  have hnodes : ∀ fields fields', Differ (.object [("start", .string "hall"), ("nodes", .object fields)])
      (.object [("start", .string "hall"), ("nodes", .object fields')]) "nodes" (.object fields)
      (.object fields') := fun fields fields' => differ_object [_] (by decide) [] _ _
  have hentry : EntryDiffers (inn (hall wayUp) (.object [])) (inn (hall wayUp) (.string "ruins"))
      [⟨"loft"⟩] := by
    refine .map (by decide) (hnodes _ _) ⟨[("hall ", hall wayUp)], [], rfl, rfl⟩ fun id => ?_
    obtain ⟨text⟩ := id
    have htrim : Text.trim "loft" = "loft" := by decide
    simp [htrim]
  have helement : ElementDiffers (hall wayUp) (hall .null) wayUp .null := by
    refine ⟨"options", by decide, _, _, differ_object [_] (by decide) [] _ _, ?_⟩
    exact ⟨[_], [_], rfl, rfl⟩
  have hchoice : ChoiceDiffers (inn (hall wayUp) (.object [])) (inn (hall .null) (.object [])) ⟨"hall"⟩
      wayUp .null := by
    refine .map (by decide) (hnodes _ _) ⟨[], [("loft", .object [])], rfl, rfl⟩ ?_ helement
    exact ⟨by decide, by decide, rfl, _, rfl⟩
  exact ⟨hentry, hchoice, (damage_stays_local {} _ _).1 _ hentry, (damage_stays_local {} _ _).2 _ _ _ hchoice⟩

end Story
end Gamebook
