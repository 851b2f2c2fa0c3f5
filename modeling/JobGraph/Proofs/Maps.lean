import JobGraph.Dictionary
import JobGraph.SortedMap
import Mathlib.Data.List.Sort

/-!
# What maps, sets and dictionaries hold

The value of a name after an insertion and in a map that is made from a list, and the names
of a set. Sorted maps that give every name the same value are equal, and so are sets with the
same names: neither shows the order in which it was made.
-/

namespace JobGraph

/-! ### Maps -/

namespace SortedMap

variable {α : Type}

theorem lookup_insertEntry {name other : String} {a : α} {entries : List (String × α)} :
  lookup other (insertEntry name a entries)
    = if name = other then some a else lookup other entries
  := by
  induction entries with
  | nil => rfl
  | cons entry entries ih =>
    obtain ⟨own, b⟩ := entry
    rw [insertEntry]
    split
    case isTrue => rfl
    case isFalse =>
      split
      case isTrue heq =>
        subst heq
        simp only [lookup]
        split <;> rfl
      case isFalse hne =>
        simp only [lookup, ih]
        split
        case isTrue hown =>
          subst hown
          rw [if_neg hne]
        case isFalse => rfl

@[simp] theorem get?_empty {name : String} :
  (empty : SortedMap α).get? name = none
  := rfl

/-- The name has its new value, and every other name the one it had. -/
@[simp] theorem get?_insert {m : SortedMap α} {name other : String} {a : α} :
  (m.insert name a).get? other = if name = other then some a else m.get? other
  := lookup_insertEntry

/-- In order, a list of entries has at most one for a name. -/
theorem lookup_eq_some_iff {name : String} {a : α} {entries : List (String × α)}
    (h : entries.Pairwise (fun x y => x.1 < y.1)) :
  lookup name entries = some a ↔ (name, a) ∈ entries
  := by
  induction entries with
  | nil => simp [lookup]
  | cons entry entries ih =>
    obtain ⟨own, b⟩ := entry
    obtain ⟨hfirst, hrest⟩ := List.pairwise_cons.mp h
    rw [lookup, List.mem_cons, Prod.mk.injEq]
    split
    case isTrue heq =>
      subst heq
      have hnot : (own, a) ∉ entries := fun hmem => String.lt_irrefl own (hfirst (own, a) hmem)
      simp only [Option.some.injEq, hnot, or_false, true_and]
      apply eq_comm
    case isFalse hne =>
      rw [ih hrest]
      simp [Ne.symm hne]

/-- The entries of a map are the names with their values. -/
theorem mem_entries_iff {m : SortedMap α} {name : String} {a : α} :
  (name, a) ∈ m.entries ↔ m.get? name = some a
  := (lookup_eq_some_iff m.sorted).symm

/-- The names of a map are those that have a value. -/
theorem mem_names_iff {m : SortedMap α} {name : String} :
  name ∈ m.names ↔ ∃ a, m.get? name = some a
  := by
  simp only [names, List.mem_map, Prod.exists, exists_and_right, exists_eq_right, mem_entries_iff]

/-- No entry stands twice in a map. -/
theorem nodup_entries (m : SortedMap α) :
  m.entries.Nodup
  := by
  apply m.sorted.imp
  rintro x _ hlt rfl
  apply String.lt_irrefl _ hlt

/-- Maps that give every name the same value are equal. -/
theorem ext_get? {m m' : SortedMap α} (h : ∀ name, m.get? name = m'.get? name) :
  m = m'
  := by
  have hmem : ∀ entry, entry ∈ m.entries ↔ entry ∈ m'.entries := by
    rintro ⟨name, a⟩
    rw [mem_entries_iff, mem_entries_iff, h]
  have hperm := (List.perm_ext_iff_of_nodup m.nodup_entries m'.nodup_entries).mpr hmem
  have hentries : m.entries = m'.entries := by
    apply hperm.eq_of_pairwise _ m.sorted m'.sorted
    intro x y _ _ hxy hyx
    exact absurd (String.lt_trans hxy hyx) (String.lt_irrefl _)
  cases m
  cases m'
  cases hentries
  rfl

/-- Where the values of a list are those that `f` gives to their names, the names of the list
have these values, however often they stand there. -/
theorem get?_foldl_insert {f : String → Option α} {name : String} {entries : List (String × α)}
    (h : ∀ x ∈ entries, f x.1 = some x.2) (m : SortedMap α) :
  (entries.foldl (fun m (own, b) => m.insert own b) m).get? name
    = if name ∈ entries.map Prod.fst then f name else m.get? name
  := by
  induction entries generalizing m with
  | nil => rfl
  | cons entry entries ih =>
    rw [List.foldl_cons, ih fun x hx => h x (List.mem_cons_of_mem _ hx)]
    have hentry := h entry List.mem_cons_self
    simp only [get?_insert, List.map_cons, List.mem_cons]
    by_cases hown : entry.1 = name
    · subst hown
      simp [hentry]
    · have hother : name ≠ entry.1 := fun h => hown h.symm
      simp only [hown, hother, if_false, false_or]

/-- Of the entries of a list that have one name the last one counts. -/
theorem get?_foldl_insert_eq_find? {name : String} {entries : List (String × α)}
    (m : SortedMap α) :
  (entries.foldl (fun m (own, b) => m.insert own b) m).get? name
    = ((entries.reverse.find? (·.1 = name)).map Prod.snd).or (m.get? name)
  := by
  induction entries generalizing m with
  | nil => rfl
  | cons entry entries ih =>
    rw [List.foldl_cons, ih, get?_insert, List.reverse_cons, List.find?_append, Option.map_or,
      Option.or_assoc, List.find?_singleton]
    by_cases h : entry.1 = name
    · simp [h]
    · simp [h]

theorem get?_ofList_eq_find? {name : String} {entries : List (String × α)} :
  (ofList entries).get? name = (entries.reverse.find? (·.1 = name)).map Prod.snd
  := by
  rw [ofList, get?_foldl_insert_eq_find?, get?_empty, Option.or_none]

/-- The map of a list that is the graph of `f` gives every name the value that `f` gives it. -/
theorem get?_ofList {f : String → Option α} {name : String} {entries : List (String × α)}
    (h : ∀ x, x ∈ entries ↔ f x.1 = some x.2) :
  (ofList entries).get? name = f name
  := by
  rw [ofList, get?_foldl_insert fun x => (h x).mp]
  split
  case isTrue => rfl
  case isFalse hnot =>
    symm
    rw [get?_empty, Option.eq_none_iff_forall_ne_some]
    intro a ha
    apply hnot
    apply List.mem_map.mpr ⟨(name, a), (h (name, a)).mpr ha, rfl⟩

/-- A map is the map of its entries. -/
theorem ofList_entries {m : SortedMap α} :
  ofList m.entries = m
  := by
  apply ext_get?
  intro name
  apply get?_ofList
  rintro ⟨own, a⟩
  apply mem_entries_iff

end SortedMap

/-! ### Sets -/

namespace NameSet

@[simp] theorem not_mem_empty {name : String} :
  name ∉ (empty : NameSet)
  := List.not_mem_nil

theorem mem_foldl_insert {name : String} {names : List String} (s : NameSet) :
  name ∈ names.foldl insert s ↔ name ∈ names ∨ name ∈ s
  := by
  induction names generalizing s with
  | nil => simp
  | cons own names ih =>
    rw [List.foldl_cons, ih, mem_insert, List.mem_cons]
    tauto

/-- The set of a list has the members of the list. -/
@[simp] theorem mem_ofList {name : String} {names : List String} :
  name ∈ ofList names ↔ name ∈ names
  := by
  rw [ofList, mem_foldl_insert]
  simp

theorem nodup_names (s : NameSet) :
  s.names.Nodup
  := by
  apply s.sorted.imp
  rintro x _ hlt rfl
  apply String.lt_irrefl _ hlt

/-- Sets with the same names are equal. -/
theorem ext_mem {s s' : NameSet} (h : ∀ name, name ∈ s ↔ name ∈ s') :
  s = s'
  := by
  have hperm := (List.perm_ext_iff_of_nodup s.nodup_names s'.nodup_names).mpr h
  have hnames : s.names = s'.names := by
    apply hperm.eq_of_pairwise _ s.sorted s'.sorted
    intro x y _ _ hxy hyx
    exact absurd (String.lt_trans hxy hyx) (String.lt_irrefl _)
  cases s
  cases s'
  cases hnames
  rfl

end NameSet

/-! ### Dictionaries -/

namespace Dictionary

variable {κ α : Type} [DecidableEq κ]

/-- Where the values of a list are those that `f` gives to their keys, the keys of the list
have these values, however often they stand there. -/
theorem get?_foldl_insert {f : κ → Option α} {key : κ} {entries : List (κ × α)}
    (h : ∀ x ∈ entries, f x.1 = some x.2) (d : Dictionary κ α) :
  (entries.foldl (fun d (own, b) => d.insert own b) d).get? key
    = if key ∈ entries.map Prod.fst then f key else d.get? key
  := by
  induction entries generalizing d with
  | nil => rfl
  | cons entry entries ih =>
    rw [List.foldl_cons, ih fun x hx => h x (List.mem_cons_of_mem _ hx)]
    have hentry := h entry List.mem_cons_self
    simp only [get?_insert, List.map_cons, List.mem_cons]
    by_cases hown : entry.1 = key
    · subst hown
      simp [hentry]
    · have hother : key ≠ entry.1 := fun h => hown h.symm
      simp only [hown, hother, if_false, false_or]

/-- Of the entries of a list that have one key the last one counts. -/
theorem get?_foldl_insert_eq_find? {key : κ} {entries : List (κ × α)} (d : Dictionary κ α) :
  (entries.foldl (fun d (own, b) => d.insert own b) d).get? key
    = ((entries.reverse.find? (·.1 = key)).map Prod.snd).or (d.get? key)
  := by
  induction entries generalizing d with
  | nil => rfl
  | cons entry entries ih =>
    rw [List.foldl_cons, ih, get?_insert, List.reverse_cons, List.find?_append, Option.map_or,
      Option.or_assoc, List.find?_singleton]
    by_cases h : entry.1 = key
    · simp [h]
    · simp [h]

theorem get?_ofList_eq_find? {key : κ} {entries : List (κ × α)} :
  (ofList entries).get? key = (entries.reverse.find? (·.1 = key)).map Prod.snd
  := by
  rw [ofList, get?_foldl_insert_eq_find?, get?_empty, Option.or_none]

/-- The dictionary of a list that is the graph of `f` gives every key the value that `f` gives
it. -/
theorem get?_ofList {f : κ → Option α} {key : κ} {entries : List (κ × α)}
    (h : ∀ x, x ∈ entries ↔ f x.1 = some x.2) :
  (ofList entries).get? key = f key
  := by
  rw [ofList, get?_foldl_insert fun x => (h x).mp]
  split
  case isTrue => rfl
  case isFalse hnot =>
    symm
    rw [get?_empty, Option.eq_none_iff_forall_ne_some]
    intro a ha
    apply hnot
    apply List.mem_map.mpr ⟨(key, a), (h (key, a)).mpr ha, rfl⟩

theorem lookup_eq_some_iff {key : κ} {a : α} {entries : List (κ × α)}
    (h : (entries.map Prod.fst).Nodup) :
  lookup key entries = some a ↔ (key, a) ∈ entries
  := by
  induction entries with
  | nil => simp [lookup]
  | cons entry entries ih =>
    obtain ⟨own, b⟩ := entry
    obtain ⟨hfirst, hrest⟩ := List.nodup_cons.mp h
    rw [lookup, List.mem_cons, Prod.mk.injEq]
    split
    case isTrue heq =>
      subst heq
      have hnot : (own, a) ∉ entries := by
        intro hmem
        apply hfirst (List.mem_map.mpr ⟨(own, a), hmem, rfl⟩)
      simp only [Option.some.injEq, hnot, or_false, true_and]
      apply eq_comm
    case isFalse hne =>
      rw [ih hrest]
      simp [Ne.symm hne]

/-- The entries of a dictionary are the keys with their values. -/
theorem mem_entries_iff {d : Dictionary κ α} {key : κ} {a : α} :
  (key, a) ∈ d.entries ↔ d.get? key = some a
  := (lookup_eq_some_iff d.distinct).symm

/-- The keys of a dictionary are those that have a value. -/
theorem mem_keys_iff {d : Dictionary κ α} {key : κ} :
  key ∈ d.keys ↔ ∃ a, d.get? key = some a
  := by
  simp only [keys, List.mem_map, Prod.exists, exists_and_right, exists_eq_right, mem_entries_iff]

theorem length_put {key : κ} {a : α} {entries : List (κ × α)} (h : lookup key entries = none) :
  (put key a entries).length = entries.length + 1
  := by
  induction entries with
  | nil => rfl
  | cons entry entries ih =>
    obtain ⟨own, b⟩ := entry
    rw [lookup] at h
    rw [put]
    split at h
    case isTrue => cases h
    case isFalse hne => rw [if_neg hne, List.length_cons, ih h, List.length_cons]

/-- A new key adds one to the size. -/
theorem size_insert {d : Dictionary κ α} {key : κ} {a : α} (h : d.get? key = none) :
  (d.insert key a).size = d.size + 1
  := length_put h

end Dictionary

end JobGraph
