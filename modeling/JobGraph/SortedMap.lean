/-!
# Maps and sets of names in order

A `SortedMap` holds its entries by strictly increasing name, and a `NameSet` its names, in
the order of their code points, which is also the order of their UTF-8 bytes. So two maps
with the same entries are equal, and so are two sets with the same names.
-/

namespace JobGraph

/-- Of two different texts one is before the other. -/
theorem lt_of_not_lt_of_ne {s t : String} (h : ¬ s < t) (hne : s ≠ t) : t < s := by
  rcases @Std.le_total _ _ _ s t with hle | hle
  · exact absurd (Std.lt_of_le_of_ne hle hne) h
  · exact Std.lt_of_le_of_ne hle (Ne.symm hne)

/-! ### Maps -/

/-- A map from names to values. -/
structure SortedMap (α : Type) where
  entries : List (String × α)
  sorted : entries.Pairwise (fun a b => a.1 < b.1)
deriving DecidableEq

namespace SortedMap

variable {α β : Type}

instance [Repr α] : Repr (SortedMap α) where
  reprPrec m n := reprPrec m.entries n

/-- The map without entries. -/
def empty : SortedMap α := ⟨[], .nil⟩

instance : Inhabited (SortedMap α) := ⟨empty⟩

instance : EmptyCollection (SortedMap α) := ⟨empty⟩

/-- The entry of a name in a list of entries. -/
def lookup (name : String) : List (String × α) → Option α
  | [] => none
  | (own, a) :: entries => if own = name then some a else lookup name entries

/-- The value of a name. -/
def get? (m : SortedMap α) (name : String) : Option α :=
  lookup name m.entries

/-- Whether the map has a value for the name. -/
def contains (m : SortedMap α) (name : String) : Bool :=
  (m.get? name).isSome

/-- The names that have a value, in order. -/
def names (m : SortedMap α) : List String :=
  m.entries.map (·.1)

/-- A list of entries with the entry of `name` put in its place. -/
def insertEntry (name : String) (a : α) : List (String × α) → List (String × α)
  | [] => [(name, a)]
  | (own, b) :: entries =>
    if name < own then (name, a) :: (own, b) :: entries
    else if name = own then (name, a) :: entries
    else (own, b) :: insertEntry name a entries

theorem mem_insertEntry_imp {name : String} {a : α} {x : String × α} :
  ∀ {entries : List (String × α)}, x ∈ insertEntry name a entries → x = (name, a) ∨ x ∈ entries
  | [], h => by simpa [insertEntry] using h
  | (own, b) :: entries, h => by
    rw [insertEntry] at h
    split at h
    · rcases List.mem_cons.mp h with h | h
      · exact .inl h
      · exact .inr h
    · split at h
      · rcases List.mem_cons.mp h with h | h
        · exact .inl h
        · exact .inr (List.mem_cons_of_mem _ h)
      · rcases List.mem_cons.mp h with h | h
        · exact .inr (h ▸ List.mem_cons_self)
        · rcases mem_insertEntry_imp h with h | h
          · exact .inl h
          · exact .inr (List.mem_cons_of_mem _ h)

theorem pairwise_insertEntry {name : String} {a : α} :
  ∀ {entries : List (String × α)}, entries.Pairwise (fun a b => a.1 < b.1) →
    (insertEntry name a entries).Pairwise (fun a b => a.1 < b.1)
  | [], _ => by simp [insertEntry]
  | (own, b) :: entries, h => by
    rw [List.pairwise_cons] at h
    rw [insertEntry]
    split
    case isTrue hlt =>
      refine List.pairwise_cons.mpr ⟨?_, List.pairwise_cons.mpr h⟩
      intro x hx
      rcases List.mem_cons.mp hx with rfl | hx
      · exact hlt
      · exact String.lt_trans hlt (h.1 x hx)
    case isFalse hge =>
      split
      case isTrue heq => exact List.pairwise_cons.mpr ⟨heq ▸ h.1, h.2⟩
      case isFalse hne =>
        refine List.pairwise_cons.mpr ⟨?_, pairwise_insertEntry h.2⟩
        intro x hx
        rcases mem_insertEntry_imp hx with rfl | hx
        · exact lt_of_not_lt_of_ne hge hne
        · exact h.1 x hx

/-- The map with a value for the name, in place of the one it had. -/
def insert (m : SortedMap α) (name : String) (a : α) : SortedMap α :=
  ⟨insertEntry name a m.entries, pairwise_insertEntry m.sorted⟩

/-- The map of a list of entries, of entries with one name the last. -/
def ofList (entries : List (String × α)) : SortedMap α :=
  entries.foldl (fun m (name, a) => m.insert name a) empty

/-- Whether the map has no entries. -/
def isEmpty (m : SortedMap α) : Bool :=
  m.entries.isEmpty

end SortedMap

/-! ### Sets -/

/-- A set of names. -/
structure NameSet where
  names : List String
  sorted : names.Pairwise (· < ·)
deriving DecidableEq

namespace NameSet

instance : Repr NameSet where
  reprPrec s n := reprPrec s.names n

/-- The set without names. -/
def empty : NameSet := ⟨[], .nil⟩

instance : Inhabited NameSet := ⟨empty⟩

instance : EmptyCollection NameSet := ⟨empty⟩

instance : Membership String NameSet where
  mem s name := name ∈ s.names

instance (s : NameSet) (name : String) : Decidable (name ∈ s) :=
  inferInstanceAs (Decidable (name ∈ s.names))

/-- A list of names with `name` put in its place. -/
def insertName (name : String) : List String → List String
  | [] => [name]
  | own :: names =>
    if name < own then name :: own :: names
    else if name = own then own :: names
    else own :: insertName name names

theorem mem_insertName {name x : String} :
  ∀ {names : List String}, x ∈ insertName name names ↔ x = name ∨ x ∈ names
  | [] => by simp [insertName]
  | own :: names => by
    rw [insertName]
    split
    · simp
    · split
      case isTrue h => subst h; simp
      case isFalse => simp [@mem_insertName name x names]; grind

theorem pairwise_insertName {name : String} :
  ∀ {names : List String}, names.Pairwise (· < ·) → (insertName name names).Pairwise (· < ·)
  | [], _ => by simp [insertName]
  | own :: names, h => by
    rw [List.pairwise_cons] at h
    rw [insertName]
    split
    case isTrue hlt =>
      refine List.pairwise_cons.mpr ⟨?_, List.pairwise_cons.mpr h⟩
      intro x hx
      rcases List.mem_cons.mp hx with rfl | hx
      · exact hlt
      · exact String.lt_trans hlt (h.1 x hx)
    case isFalse hge =>
      split
      case isTrue => exact List.pairwise_cons.mpr h
      case isFalse hne =>
        refine List.pairwise_cons.mpr ⟨?_, pairwise_insertName h.2⟩
        intro x hx
        rcases mem_insertName.mp hx with rfl | hx
        · exact lt_of_not_lt_of_ne hge hne
        · exact h.1 x hx

/-- The set with a name added. -/
def insert (s : NameSet) (name : String) : NameSet :=
  ⟨insertName name s.names, pairwise_insertName s.sorted⟩

/-- The set of the names in a list. -/
def ofList (names : List String) : NameSet :=
  names.foldl insert empty

/-- Whether the set has no names. -/
def isEmpty (s : NameSet) : Bool :=
  s.names.isEmpty

@[simp] theorem mem_insert {s : NameSet} {name x : String} :
  x ∈ s.insert name ↔ x = name ∨ x ∈ s
  :=
  mem_insertName

end NameSet

end JobGraph
