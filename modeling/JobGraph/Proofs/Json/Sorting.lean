import JobGraph.Json.Value
import JobGraph.Proofs.Maps

/-!
# Fields in any order

Sorting the fields of an object throughout keeps what each field holds. So a reader that looks
fields up by their names does not see in which order they stand.
-/

namespace JobGraph.Json

/-! ### Fields of one object -/

theorem insert_eq_insertEntry {name : String} {v : Value} {fields : List (String × Value)} :
  sortFields.insert name v fields = SortedMap.insertEntry name v fields
  := by
  induction fields with
  | nil => rfl
  | cons field fields ih =>
    obtain ⟨own, w⟩ := field
    rw [sortFields.insert, SortedMap.insertEntry, ih]

/-- The sorted fields are the entries of the map of the fields. -/
theorem sortFields_eq_entries {fields : List (String × Value)} :
  sortFields fields = (SortedMap.ofList fields).entries
  := by
  have h : ∀ (m : SortedMap Value), fields.foldl
      (fun sorted field => sortFields.insert field.1 field.2 sorted) m.entries
        = (fields.foldl (fun m field => m.insert field.1 field.2) m).entries := by
    induction fields with
    | nil => intro m; rfl
    | cons field fields ih =>
      intro m
      rw [List.foldl_cons, List.foldl_cons, ← ih]
      simp only [insert_eq_insertEntry, SortedMap.insert]
  apply h .empty

namespace Value

variable {name : String} {fields : List (String × Value)}

/-- A field holds what the map of the fields holds under its name. -/
theorem field?_object :
  (object fields).field? name = (SortedMap.ofList fields).get? name
  := by
  rw [SortedMap.get?_ofList_eq_find?, field?]
  rfl

theorem field?_sortFields :
  (object (sortFields fields)).field? name = (object fields).field? name
  := by
  rw [field?_object, field?_object, sortFields_eq_entries, SortedMap.ofList_entries]

@[simp] theorem field?_append {more : List (String × Value)} :
  (object (fields ++ more)).field? name
    = ((object more).field? name).or ((object fields).field? name)
  := by
  rw [field?, List.reverse_append, List.find?_append, Option.map_or]
  rfl

@[simp] theorem field?_nil :
  (object []).field? name = none
  := rfl

@[simp] theorem field?_cons {own : String} {v : Value} :
  (object ((own, v) :: fields)).field? name
    = ((object fields).field? name).or (if own = name then some v else none)
  := by
  have hfirst : (object [(own, v)]).field? name = if own = name then some v else none := by
    by_cases h : own = name
    · simp [field?, h]
    · simp [field?, h]
  rw [← hfirst, ← field?_append, List.singleton_append]

/-! ### Values sorted throughout -/

theorem sortedItems_eq_map {items : List Value} :
  sortedItems items = items.map sorted
  := by
  induction items with
  | nil => rfl
  | cons v items ih => rw [sortedItems, ih, List.map_cons]

theorem sortedFields_eq_map :
  sortedFields fields = fields.map fun (name, v) => (name, v.sorted)
  := by
  induction fields with
  | nil => rfl
  | cons field fields ih => rw [sortedFields, ih, List.map_cons]

/-- Sorted, a field holds the sorted value. -/
theorem field?_sorted {v : Value} :
  v.sorted.field? name = (v.field? name).map sorted
  := by
  cases v with
  | object fields =>
    rw [sorted, field?_sortFields, sortedFields_eq_map, field?, field?, ← List.map_reverse,
      List.find?_map, Option.map_map, Option.map_map]
    rfl
  | null => rfl
  | bool b => rfl
  | number n => rfl
  | string s => rfl
  | array items => rfl

theorem text?_sorted {v : Value} :
  v.sorted.text? = v.text?
  := by
  cases v <;> rfl

theorem items?_sorted {v : Value} :
  v.sorted.items? = v.items?.map (List.map sorted)
  := by
  cases v with
  | array items => rw [sorted, sortedItems_eq_map]; rfl
  | null => rfl
  | bool b => rfl
  | number n => rfl
  | string s => rfl
  | object fields => rfl

end Value

end JobGraph.Json
