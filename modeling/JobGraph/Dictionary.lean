/-!
# Dictionaries

A dictionary maps keys to values and keeps its entries in the order in which their keys were
first given a value.
-/

namespace JobGraph

/-- A finite map with its entries in order of their first insertion. -/
structure Dictionary (κ α : Type) where
  entries : List (κ × α)
  distinct : (entries.map Prod.fst).Nodup
deriving DecidableEq

namespace Dictionary

variable {κ α : Type}

instance [Repr κ] [Repr α] : Repr (Dictionary κ α) where
  reprPrec d n := reprPrec d.entries n

/-- The dictionary without entries. -/
def empty : Dictionary κ α := ⟨[], .nil⟩

instance : Inhabited (Dictionary κ α) := ⟨empty⟩

instance : EmptyCollection (Dictionary κ α) := ⟨empty⟩

/-- The number of entries. -/
def size (d : Dictionary κ α) : Nat :=
  d.entries.length

/-- The keys, in order of their first insertion. -/
def keys (d : Dictionary κ α) : List κ :=
  d.entries.map Prod.fst

variable [DecidableEq κ]

/-- The value of a key in a list of entries. -/
def lookup (key : κ) : List (κ × α) → Option α
  | [] => none
  | (own, a) :: entries => if own = key then some a else lookup key entries

/-- The value of a key. -/
def get? (d : Dictionary κ α) (key : κ) : Option α :=
  lookup key d.entries

/-- Whether the key has a value. -/
def contains (d : Dictionary κ α) (key : κ) : Bool :=
  (d.get? key).isSome

/-- A list of entries with the value of `key` replaced, or put at the end. -/
def put (key : κ) (a : α) : List (κ × α) → List (κ × α)
  | [] => [(key, a)]
  | (own, b) :: entries => if own = key then (key, a) :: entries else (own, b) :: put key a entries

theorem mem_map_put {key x : κ} {a : α} :
  ∀ {entries : List (κ × α)},
    x ∈ (put key a entries).map Prod.fst ↔ x = key ∨ x ∈ entries.map Prod.fst
  | [] => by simp [put]
  | (own, b) :: entries => by
    rw [put]
    split
    case isTrue h => subst h; simp
    case isFalse =>
      rw [List.map_cons, List.mem_cons, mem_map_put, List.map_cons, List.mem_cons]
      exact ⟨fun h => by rcases h with h | h | h <;> simp [h],
        fun h => by rcases h with h | h | h <;> simp [h]⟩

theorem nodup_put {key : κ} {a : α} :
  ∀ {entries : List (κ × α)}, (entries.map Prod.fst).Nodup →
    ((put key a entries).map Prod.fst).Nodup
  | [], _ => by simp [put]
  | (own, b) :: entries, h => by
    rw [List.map_cons, List.nodup_cons] at h
    rw [put]
    split
    case isTrue heq => subst heq; exact List.nodup_cons.mpr h
    case isFalse hne =>
      refine List.nodup_cons.mpr ⟨?_, nodup_put h.2⟩
      intro hmem
      rcases mem_map_put.mp hmem with heq | hmem
      · exact hne heq
      · exact h.1 hmem

/-- The dictionary with a value for the key, in place of the one it had. -/
def insert (d : Dictionary κ α) (key : κ) (a : α) : Dictionary κ α :=
  ⟨put key a d.entries, nodup_put d.distinct⟩

/-- The dictionary of a list of entries, of entries with one key the last. -/
def ofList (entries : List (κ × α)) : Dictionary κ α :=
  entries.foldl (fun d (key, a) => d.insert key a) empty

theorem lookup_put {key key' : κ} {a : α} :
  ∀ {entries : List (κ × α)},
    lookup key' (put key a entries) = if key = key' then some a else lookup key' entries
  | [] => rfl
  | (own, b) :: entries => by
    rw [put]
    split
    case isTrue h => subst h; simp only [lookup]; split <;> rfl
    case isFalse h =>
      simp only [lookup, lookup_put]
      split
      case isTrue h' => subst h'; rw [if_neg (fun e => h e.symm)]
      case isFalse => rfl

@[simp] theorem get?_empty {key : κ} : (empty : Dictionary κ α).get? key = none := rfl

/-- The key has its new value, and every other key the one it had. -/
@[simp] theorem get?_insert {d : Dictionary κ α} {key key' : κ} {a : α} :
  (d.insert key a).get? key' = if key = key' then some a else d.get? key'
  :=
  lookup_put

end Dictionary

end JobGraph
