import Gamebook.Story.Dialect

/-! The graphs that documents give. Whatever a document holds, the scenes of its graph are declared once
each, under names that are trimmed and not empty, and their choices lead to scenes of the graph. What
inserting keeps is said first; leaving out dangling choices then makes the graph well formed. -/
namespace Gamebook

namespace Text

/-- Something is left of the text when it is trimmed, and that is the text itself. -/
structure Trimmed (s : String) : Prop where
  nonempty : s ≠ ""
  trim_eq : trim s = s

theorem trimmed_of_trimmed? {s t : String} (h : trimmed? s = some t) : Trimmed t := by
  unfold trimmed? at h
  split at h
  · cases h
  · rename_i hblank
    obtain rfl := Option.some.inj h
    exact ⟨mt (trim_eq_empty_iff s).1 hblank, trim_trim s⟩

end Text

namespace Story

open Json (Value)

/-- A scene as documents give it, whatever its choices lead to. -/
structure Scene.Sound (c : StorySettings) (s : Scene) : Prop where
  id : Text.Trimmed s.id.text
  labels : ∀ choice ∈ s.options, Text.Trimmed choice.label ∨ choice.label = c.continueLabel

namespace Graph

structure Sound (c : StorySettings) (g : Graph) : Prop where
  nodup : g.ids.Nodup
  named : ∀ {id : NodeId} {s : Scene}, g.scene? id = some s → s.id = id
  scenes : ∀ {id : NodeId} {s : Scene}, g.scene? id = some s → s.Sound c

variable {c : StorySettings} {g : Graph}

theorem first?_eq_none_iff (g : Graph) : g.first? = none ↔ g.isEmpty = true := by
  cases h : g.scenes <;> simp [first?, ids, isEmpty, Table.keys, h]

theorem contains_of_first? {node : NodeId} (h : g.first? = some node) : g.contains node = true :=
  (contains_iff g node).2 (List.mem_of_mem_head? h)

theorem contains_of_entry? {node : NodeId} (h : g.entry? = some node) : g.contains node = true := by
  unfold entry? at h
  split at h
  · rename_i hs
    obtain rfl := Option.some.inj h
    exact hs
  · exact contains_of_first? h

theorem exists_entry? (h : g.isEmpty = false) : ∃ node, g.entry? = some node := by
  unfold entry?
  split
  · exact ⟨_, rfl⟩
  · cases hf : g.first? with
    | some node => exact ⟨node, rfl⟩
    | none =>
      rw [(first?_eq_none_iff g).1 hf] at h
      cases h

theorem mem_ids_iff (g : Graph) (id : NodeId) : id ∈ g.ids ↔ ∃ s, g.scene? id = some s := by
  rw [← contains_iff]
  exact Option.isSome_iff_exists

theorem sound_empty (c : StorySettings) (start : NodeId) : (empty start).Sound c where
  nodup := List.nodup_nil
  named h := by cases h
  scenes h := by cases h

theorem Sound.insert (h : g.Sound c) {s : Scene} (hs : s.Sound c) : (g.insert s).Sound c where
  nodup := Table.nodup_keys_put h.nodup ..
  named := by
    intro id t ht
    rw [scene?_insert] at ht
    split at ht
    · rename_i hid
      obtain rfl := Option.some.inj ht
      exact hid
    · exact h.named ht
  scenes := by
    intro id t ht
    rw [scene?_insert] at ht
    split at ht
    · obtain rfl := Option.some.inj ht
      exact hs
    · exact h.scenes ht

theorem start_insertAll (ss : List Scene) (g : Graph) : (ss.foldl Graph.insert g).start = g.start := by
  induction ss generalizing g with
  | nil => rfl
  | cons s ss ih => exact ih (g.insert s)

theorem scene?_dropDangling (g : Graph) (id : NodeId) :
    g.dropDangling.scene? id =
      (g.scene? id).map fun s => { s with options := s.options.filter fun choice => g.contains choice.target } :=
  Table.get?_mapValues (β := Scene) g.scenes
    (fun s => { s with options := s.options.filter fun choice => g.contains choice.target }) id

theorem target_mem_ids_dropDangling {id : NodeId} {s : Scene} (h : g.dropDangling.scene? id = some s) :
    ∀ choice ∈ s.options, choice.target ∈ g.dropDangling.ids := by
  rw [scene?_dropDangling, Option.map_eq_some_iff] at h
  obtain ⟨s, -, rfl⟩ := h
  intro choice hchoice
  rw [ids_dropDangling]
  exact (contains_iff g choice.target).1 (List.mem_filter.1 hchoice).2

end Graph

namespace Dialect

variable {c : StorySettings}

theorem trimmed_firstText? {v : Value} {names : List String} {s : String} (h : firstText? v names = some s) :
    Text.Trimmed s := by
  obtain ⟨t, -, ht⟩ := Option.bind_eq_some_iff.1 h
  exact Text.trimmed_of_trimmed? ht

/-- Both kinds of collections name their entries by trimmed texts. -/
theorem trimmed_entries? {doc : Value} {entries : List (NodeId × Value)} (h : entries? doc = some entries) :
    ∀ e ∈ entries, Text.Trimmed e.1.text := by
  intro e he
  unfold entries? at h
  split at h
  · obtain rfl := Option.some.inj h
    obtain ⟨field, -, hfield⟩ := List.mem_filterMap.1 he
    obtain ⟨id, hid, rfl⟩ := Option.map_eq_some_iff.1 hfield
    exact Text.trimmed_of_trimmed? hid
  · obtain ⟨items, -, rfl⟩ := Option.map_eq_some_iff.1 h
    obtain ⟨item, -, hitem⟩ := List.mem_filterMap.1 he
    obtain ⟨id, hid, rfl⟩ := Option.map_eq_some_iff.1 hitem
    exact trimmed_firstText? hid

end Dialect

end Story
end Gamebook
