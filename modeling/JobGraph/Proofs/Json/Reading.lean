import JobGraph.Json.Reading

/-!
# What is read from JSON

A record or a list that is read holds nothing but what the readers of its fields or its items
gave. So what they give of every value holds throughout.
-/

namespace JobGraph

/-- A sequence of two readings succeeds when both do. -/
theorem bind_eq_ok_iff {ε α β : Type} {reading : Except ε α} {next : α → Except ε β} {b : β} :
  (reading >>= next) = .ok b ↔ ∃ a, reading = .ok a ∧ next a = .ok b
  := by
  cases reading with
  | error e => simp [bind, Except.bind]
  | ok a => simp [bind, Except.bind]

/-! ### Records -/

namespace Schema.Fields

variable {ν κ ε : Type} {types : List Type}

/-- Each entry of the row is what the reader of its field gives of some value. -/
def HasRead : {types : List Type} → Fields ν (Except ε) types → Row types → Prop
  | _, .nil, _ => True
  | _, .cons _ read rest, (entry, row) =>
    (∀ a, entry = some a → ∃ v, read v = .ok a) ∧ rest.HasRead row

variable {fields : Fields ν (Except ε) types} {row row' : Row types} {name : κ → Except ε String}
  {repeated : {α : Type} → String → Except ε α} {skip : ν → Except ε Unit}

theorem hasRead_empty :
  fields.HasRead (Row.empty types)
  := by
  induction fields with
  | nil => trivial
  | cons own read rest ih =>
    constructor
    · rintro a ⟨⟩
    · apply ih

/-- A field is filled with what its reader gives. -/
theorem HasRead.fill (h : fields.HasRead row)
    (hrepeated : ∀ {α : Type} (name : String) (a : α), repeated name ≠ .ok a) {own : String}
    {v : ν} {result : Except ε (Row types)}
    (hfill : fields.fill repeated own v row = some result) (hresult : result = .ok row') :
  fields.HasRead row'
  := by
  induction fields with
  | nil => cases hfill
  | cons name read rest ih =>
    obtain ⟨entry, row⟩ := row
    obtain ⟨hentry, hrest⟩ := h
    rw [Fields.fill] at hfill
    split at hfill
    case isTrue =>
      cases hfill
      split at hresult
      case isTrue => exact absurd hresult (hrepeated own _)
      case isFalse =>
        obtain ⟨a, ha, hrow⟩ := bind_eq_ok_iff.mp hresult
        cases hrow
        refine ⟨?_, hrest⟩
        rintro _ ⟨⟩
        exact ⟨v, ha⟩
    case isFalse =>
      obtain ⟨result', hfill', rfl⟩ := Option.map_eq_some_iff.mp hfill
      obtain ⟨row'', hrow'', hrow⟩ := bind_eq_ok_iff.mp hresult
      cases hrow
      exact ⟨hentry, ih hrest hfill' hrow''⟩

theorem HasRead.readNamed (h : fields.HasRead row)
    (hrepeated : ∀ {α : Type} (name : String) (a : α), repeated name ≠ .ok a)
    {pairs : List (κ × ν)} (hread : fields.readNamed name repeated skip pairs row = .ok row') :
  fields.HasRead row'
  := by
  induction pairs generalizing row with
  | nil =>
    cases hread
    apply h
  | cons pair pairs ih =>
    obtain ⟨key, v⟩ := pair
    rw [Fields.readNamed] at hread
    obtain ⟨own, -, hread⟩ := bind_eq_ok_iff.mp hread
    split at hread
    case h_1 result hfill =>
      obtain ⟨row'', hrow'', hread⟩ := bind_eq_ok_iff.mp hread
      apply ih (h.fill hrepeated hfill hrow'') hread
    case h_2 =>
      obtain ⟨-, -, hread⟩ := bind_eq_ok_iff.mp hread
      apply ih h hread

theorem hasRead_of_readInOrder {values left : List ν}
    (hread : fields.readInOrder values = .ok (row, left)) :
  fields.HasRead row
  := by
  induction fields generalizing values left with
  | nil => trivial
  | cons own read rest ih =>
    cases values with
    | nil =>
      cases hread
      apply hasRead_empty
    | cons v values =>
      obtain ⟨a, ha, hread⟩ := bind_eq_ok_iff.mp hread
      obtain ⟨⟨row', left'⟩, hrest, hread⟩ := bind_eq_ok_iff.mp hread
      cases hread
      constructor
      · rintro _ ⟨⟩
        exact ⟨v, ha⟩
      · apply ih hrest

end Schema.Fields

namespace Json.Draft

variable {types : List Type} {fields : Schema.Fields Draft (Except Fault) types}
  {row : Schema.Row types} {medium : Medium}

/-- A record holds what the readers of its fields give, in whichever form it is given. -/
theorem hasRead_of_readRecord {d : Draft} (h : readRecord medium fields d = .ok row) :
  fields.HasRead row
  := by
  unfold readRecord at h
  split at h
  case h_1 drafts closed =>
    obtain ⟨row', hread, h⟩ := bind_eq_ok_iff.mp h
    split at h
    case isTrue =>
      cases h
      apply Schema.Fields.hasRead_empty.readNamed _ hread
      rintro _ _ _ ⟨⟩
    case isFalse => cases h
  case h_2 drafts closed =>
    obtain ⟨⟨row', left⟩, hread, h⟩ := bind_eq_ok_iff.mp h
    simp only at h
    split at h
    case isTrue => cases h
    case isFalse =>
      split at h
      case isTrue =>
        cases h
        apply Schema.Fields.hasRead_of_readInOrder hread
      case isFalse => cases h
  case h_3 => cases h

/-! ### Lists -/

variable {α : Type} {read : Draft → Except Fault α} {as : List α}

/-- The items of a list are what their reader gives. -/
theorem exists_of_mapM {drafts : List Draft} (h : drafts.mapM read = .ok as) :
  ∀ a ∈ as, ∃ d, read d = .ok a
  := by
  induction drafts generalizing as with
  | nil =>
    cases h
    intro a ha
    cases ha
  | cons d drafts ih =>
    rw [List.mapM_cons] at h
    obtain ⟨a, ha, h⟩ := bind_eq_ok_iff.mp h
    obtain ⟨as', has, h⟩ := bind_eq_ok_iff.mp h
    cases h
    rw [List.forall_mem_cons]
    exact ⟨⟨d, ha⟩, ih has⟩

theorem exists_of_readItems {d : Draft} (h : readItems read d = .ok as) :
  ∀ a ∈ as, ∃ d, read d = .ok a
  := by
  unfold readItems at h
  split at h
  case h_1 items closed =>
    obtain ⟨as', has, h⟩ := bind_eq_ok_iff.mp h
    split at h
    case isTrue =>
      cases h
      apply exists_of_mapM has
    case isFalse => cases h
  case h_2 => cases h

/-- A list whose items are read back from their values is read back from the array of these. -/
theorem readItems_ofValue {toValue : α → Value} (h : ∀ a ∈ as, read (ofValue (toValue a)) = .ok a) :
  readItems read (ofValue (.array (as.map toValue))) = .ok as
  := by
  have hitems : (ofValues (as.map toValue)).mapM read = .ok as := by
    induction as with
    | nil => rfl
    | cons a as ih =>
      rw [List.map_cons, ofValues, List.mapM_cons, h a List.mem_cons_self,
        ih fun a ha => h a (List.mem_cons_of_mem _ ha)]
      rfl
  rw [ofValue, readItems, hitems]
  rfl

end Json.Draft

end JobGraph
