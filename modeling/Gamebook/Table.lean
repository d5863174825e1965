/-! Finite maps as lists of entries. A key keeps the place where it was first put, and its last value.
The main statement is `get?_put`; the keys stay without repetition under `put`. -/
namespace Gamebook

/-- Entries in the order in which their keys were first put. -/
abbrev Table (κ α : Type) := List (κ × α)

namespace Table

variable {κ α β : Type} [DecidableEq κ]

def get? : Table κ α → κ → Option α
  | [], _ => none
  | (key, value) :: rest, k => if key = k then some value else get? rest k

def put : Table κ α → κ → α → Table κ α
  | [], k, v => [(k, v)]
  | (key, value) :: rest, k, v => if key = k then (key, v) :: rest else (key, value) :: put rest k v

def contains (t : Table κ α) (k : κ) : Bool := (t.get? k).isSome

def ensure (t : Table κ α) (k : κ) (v : α) : Table κ α := if t.contains k then t else t.put k v

def adjust : Table κ α → κ → (α → α) → Table κ α
  | [], _, _ => []
  | (key, value) :: rest, k, f =>
    if key = k then (key, f value) :: rest else (key, value) :: adjust rest k f

def keys (t : Table κ α) : List κ := t.map Prod.fst
def values (t : Table κ α) : List α := t.map Prod.snd

def mapValues (t : Table κ α) (f : α → β) : Table κ β := t.map fun e => (e.1, f e.2)

def ofList (entries : List (κ × α)) : Table κ α := entries.foldl (fun t e => t.put e.1 e.2) []

@[simp] theorem get?_nil (k : κ) : get? ([] : Table κ α) k = none := rfl

theorem get?_cons (key : κ) (value : α) (rest : Table κ α) (k : κ) :
    get? ((key, value) :: rest) k = if key = k then some value else get? rest k := rfl

theorem get?_put (t : Table κ α) (k j : κ) (v : α) :
    (t.put k v).get? j = if k = j then some v else t.get? j := by
  induction t with
  | nil => rfl
  | cons e rest ih =>
    obtain ⟨key, value⟩ := e
    simp only [put]
    split <;> simp only [get?_cons]
    · split <;> simp_all
    · rw [ih]; split <;> split <;> simp_all

@[simp] theorem get?_put_self (t : Table κ α) (k : κ) (v : α) : (t.put k v).get? k = some v := by
  simp [get?_put]

theorem get?_put_of_ne (t : Table κ α) {k j : κ} (v : α) (h : k ≠ j) :
    (t.put k v).get? j = t.get? j := by simp [get?_put, h]

theorem get?_ensure (t : Table κ α) (k j : κ) (v : α) :
    (t.ensure k v).get? j = if k = j then some ((t.get? k).getD v) else t.get? j := by
  unfold ensure contains
  cases h : t.get? k with
  | none => simp [get?_put]
  | some w =>
    simp only [Option.isSome_some, ite_true, Option.getD_some]
    split
    · rename_i hk; rw [← hk, h]
    · rfl

theorem get?_adjust (t : Table κ α) (k j : κ) (f : α → α) :
    (t.adjust k f).get? j = if k = j then (t.get? j).map f else t.get? j := by
  induction t with
  | nil => simp [adjust]
  | cons e rest ih =>
    obtain ⟨key, value⟩ := e
    simp only [adjust]
    split <;> simp only [get?_cons]
    · split <;> simp_all
    · rw [ih]; split <;> split <;> simp_all

theorem get?_mapValues (t : Table κ α) (f : α → β) (k : κ) :
    (t.mapValues f).get? k = (t.get? k).map f := by
  induction t with
  | nil => rfl
  | cons e rest ih =>
    obtain ⟨key, value⟩ := e
    simp only [mapValues, List.map_cons, get?_cons] at ih ⊢
    split <;> simp_all

theorem get?_eq_none_iff (t : Table κ α) (k : κ) : t.get? k = none ↔ k ∉ t.keys := by
  induction t with
  | nil => simp [keys]
  | cons e rest ih =>
    obtain ⟨key, value⟩ := e
    simp only [get?_cons, keys, List.map_cons, List.mem_cons, not_or] at ih ⊢
    split
    · simp_all
    · rw [ih]; constructor
      · intro h; exact ⟨fun hk => by simp_all, h⟩
      · exact And.right

theorem contains_iff (t : Table κ α) (k : κ) : t.contains k = true ↔ k ∈ t.keys := by
  have h := get?_eq_none_iff t k
  unfold contains
  cases hk : t.get? k with
  | none => simp [h.1 hk]
  | some v =>
    simp only [Option.isSome_some, true_iff]
    rcases Decidable.em (k ∈ t.keys) with hm | hm
    · exact hm
    · simp [h.2 hm] at hk

/-- A new key goes last, a known one stays where it is. -/
theorem keys_put (t : Table κ α) (k : κ) (v : α) :
    (t.put k v).keys = if k ∈ t.keys then t.keys else t.keys ++ [k] := by
  induction t with
  | nil => rfl
  | cons e rest ih =>
    obtain ⟨key, value⟩ := e
    simp only [put, keys] at ih ⊢
    split
    · simp_all
    · rename_i h
      have hk : ¬ k = key := fun hk => h hk.symm
      simp only [List.map_cons, ih, List.mem_cons, hk, false_or]
      by_cases hm : k ∈ rest.map Prod.fst <;> simp [hm]

theorem nodup_keys_put {t : Table κ α} (h : t.keys.Nodup) (k : κ) (v : α) : (t.put k v).keys.Nodup := by
  rw [keys_put]
  split
  · exact h
  · rename_i hk
    exact List.nodup_append.2 ⟨h, by simp, by intro a ha b hb; simp at hb; subst hb; rintro rfl; exact hk ha⟩

theorem keys_adjust (t : Table κ α) (k : κ) (f : α → α) : (t.adjust k f).keys = t.keys := by
  induction t with
  | nil => rfl
  | cons e rest ih =>
    obtain ⟨key, value⟩ := e
    simp only [adjust, keys] at ih ⊢
    split <;> simp [ih]

omit [DecidableEq κ] in
@[simp] theorem keys_mapValues (t : Table κ α) (f : α → β) : (t.mapValues f).keys = t.keys := by
  simp [mapValues, keys, List.map_map, Function.comp_def]

end Table
end Gamebook
