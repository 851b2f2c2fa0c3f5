import JobGraph.Json.Reading
import JobGraph.Proofs.Text.Utf8
import Mathlib.Tactic.Use

/-!
# Texts of JSON are read back

The compact text of a value without numbers is read as the value, whatever stands behind it.
The bytes of a text are read as the text, and bytes that are not UTF-8 are not read.
-/

namespace JobGraph.Json

/-! ### Strings -/

/-- The characters that have a short escape, with what stands behind its backslash. -/
def shortEscapes : List (Char × Char) :=
  [('"', '"'), ('\\', '\\'), ('\n', 'n'), ('\r', 'r'), ('\t', 't'), (Char.ofNat 8, 'b'),
    (Char.ofNat 12, 'f')]

theorem escapeChar_of_mem :
  ∀ x ∈ shortEscapes,
    escapeChar x.1 = ['\\', x.2] ∧ x.2 ≠ 'u' ∧ Draft.shortEscape? x.2 = some x.1
  := by
  decide

theorem escapeChar_of_not_mem {c : Char} (h : ∀ x ∈ shortEscapes, c ≠ x.1) :
  escapeChar c = if c.toNat < 0x20
    then ['\\', 'u', '0', '0', hexDigit (c.toNat / 16), hexDigit (c.toNat % 16)]
    else [c]
  := by
  simp only [shortEscapes, List.forall_mem_cons] at h
  obtain ⟨hquote, hbackslash, hnewline, hreturn, htab, hback, hfeed, -⟩ := h
  rw [escapeChar, if_neg hquote, if_neg hbackslash, if_neg hnewline, if_neg hreturn, if_neg htab,
    if_neg hback, if_neg hfeed]

/-- A character is written as a short escape, in hexadecimal, or as it is. -/
theorem escapeChar_cases (c : Char) :
  (∃ e, escapeChar c = ['\\', e] ∧ e ≠ 'u' ∧ Draft.shortEscape? e = some c)
    ∨ c.toNat < 0x20
      ∧ escapeChar c = ['\\', 'u', '0', '0', hexDigit (c.toNat / 16), hexDigit (c.toNat % 16)]
    ∨ c ≠ '"' ∧ c ≠ '\\' ∧ ¬ c.toNat < 0x20 ∧ escapeChar c = [c]
  := by
  by_cases hshort : ∃ x ∈ shortEscapes, c = x.1
  · obtain ⟨x, hx, rfl⟩ := hshort
    exact .inl ⟨x.2, escapeChar_of_mem x hx⟩
  · have hnot : ∀ x ∈ shortEscapes, c ≠ x.1 := fun x hx heq => hshort ⟨x, hx, heq⟩
    have hescape := escapeChar_of_not_mem hnot
    by_cases hlow : c.toNat < 0x20
    · rw [if_pos hlow] at hescape
      exact .inr (.inl ⟨hlow, hescape⟩)
    · rw [if_neg hlow] at hescape
      have hquote : c ≠ '"' := hnot ('"', '"') (by decide)
      have hbackslash : c ≠ '\\' := hnot ('\\', '\\') (by decide)
      exact .inr (.inr ⟨hquote, hbackslash, hlow, hescape⟩)

namespace Draft

/-- The two digits of a control character give its number. -/
theorem hexUnit?_hexDigit :
  ∀ n < 0x20, hexUnit? '0' '0' (hexDigit (n / 16)) (hexDigit (n % 16)) = some n
  := by
  decide

theorem pieces?_short {e c : Char} (hu : e ≠ 'u') (h : shortEscape? e = some c)
    (cs : List Char) :
  pieces? ('\\' :: e :: cs) = (pieces? cs).map fun (pieces, after) => (.char c :: pieces, after)
  := by
  rw [pieces?, h]
  · cases pieces? cs <;> rfl
  · simp [hu]

theorem pieces?_hex {a b c d : Char} {n : Nat} (h : hexUnit? a b c d = some n)
    (cs : List Char) :
  pieces? ('\\' :: 'u' :: a :: b :: c :: d :: cs)
    = (pieces? cs).map fun (pieces, after) => (.unit n :: pieces, after)
  := by
  rw [pieces?, h]
  cases pieces? cs <;> rfl

theorem pieces?_plain {c : Char} (hquote : c ≠ '"') (hbackslash : c ≠ '\\')
    (hlow : ¬ c.toNat < 0x20) (cs : List Char) :
  pieces? (c :: cs) = (pieces? cs).map fun (pieces, after) => (.char c :: pieces, after)
  := by
  rw [pieces?, if_neg (not_or.mpr ⟨hlow, hbackslash⟩)]
  all_goals simp [hquote, hbackslash]

/-- The unit of a control character spells the character. -/
theorem spell?_unit {c : Char} (h : c.toNat < 0x20) (pieces : List Piece) :
  spell? (.unit c.toNat :: pieces) = (spell? pieces).map (c :: ·)
  := by
  have hhigh : ¬ (0xd800 ≤ c.toNat ∧ c.toNat < 0xdc00) := by omega
  have hlow : ¬ (0xdc00 ≤ c.toNat ∧ c.toNat < 0xe000) := by omega
  have hpair : ¬ (0xd800 ≤ c.toNat ∧ c.toNat < 0xe000) := by omega
  cases pieces with
  | nil => simp only [spell?, if_neg hpair, Char.ofNat_toNat, Option.map_some]
  | cons piece pieces =>
    cases piece with
    | char d => simp only [spell?, if_neg hpair, Char.ofNat_toNat]
    | unit v => simp only [spell?, if_neg hhigh, if_neg hlow, Char.ofNat_toNat]

/-- A character is written as a piece that spells it. -/
theorem exists_piece (c : Char) :
  ∃ piece, (∀ cs, pieces? (escapeChar c ++ cs)
      = (pieces? cs).map fun (pieces, after) => (piece :: pieces, after))
    ∧ ∀ pieces, spell? (piece :: pieces) = (spell? pieces).map (c :: ·)
  := by
  obtain ⟨e, hescape, hu, hshort⟩ | ⟨hlow, hescape⟩ | ⟨hquote, hbackslash, hlow, hescape⟩ :=
    escapeChar_cases c
  · use .char c
    rw [hescape]
    exact ⟨pieces?_short hu hshort, fun _ => rfl⟩
  · use .unit c.toNat
    rw [hescape]
    exact ⟨pieces?_hex (hexUnit?_hexDigit c.toNat hlow), spell?_unit hlow⟩
  · use .char c
    rw [hescape]
    exact ⟨pieces?_plain hquote hbackslash hlow, fun _ => rfl⟩

/-- The characters of a string are read up to the quote that closes it. -/
theorem exists_pieces (cs rest : List Char) :
  ∃ pieces, pieces? (cs.flatMap escapeChar ++ '"' :: rest) = some (pieces, rest)
    ∧ spell? pieces = some cs
  := by
  induction cs with
  | nil => exact ⟨[], rfl, rfl⟩
  | cons c cs ih =>
    obtain ⟨pieces, hpieces, hspell⟩ := ih
    obtain ⟨piece, hpiece, hchar⟩ := exists_piece c
    use piece :: pieces
    rw [List.flatMap_cons, List.append_assoc, hpiece, hpieces, hchar, hspell]
    exact ⟨rfl, rfl⟩

/-- A string is read up to the quote that closes it. -/
theorem stringAfterQuote?_escaped (s : String) (rest : List Char) :
  stringAfterQuote? (s.toList.flatMap escapeChar ++ '"' :: rest) = some (some s, rest)
  := by
  obtain ⟨pieces, hpieces, hspell⟩ := exists_pieces s.toList rest
  rw [stringAfterQuote?, hpieces, Option.map_some]
  simp only [hspell, Option.map_some, String.ofList_toList]

end Draft

theorem toList_quote {s : String} :
  (quote s).toList = '"' :: s.toList.flatMap escapeChar ++ ['"']
  := String.toList_ofList

/-! ### Values -/

namespace Value

/-- No number stands in the value. -/
inductive Numberless : Value → Prop where
  | null : Numberless .null
  | bool (b : Bool) : Numberless (.bool b)
  | string (s : String) : Numberless (.string s)
  | array {items : List Value} (h : ∀ v ∈ items, Numberless v) : Numberless (.array items)
  | object {fields : List (String × Value)} (h : ∀ field ∈ fields, Numberless field.2) :
    Numberless (.object fields)

/-- The text of a list of items. -/
def itemsText : List Value → List Char
  | [] => []
  | v :: vs => v.write.toList ++ (writeItems vs).toList

/-- The text of a list of fields. -/
def fieldsText : List (String × Value) → List Char
  | [] => []
  | (name, v) :: fields =>
    (quote name).toList ++ ':' :: (v.write.toList ++ (writeFields fields).toList)

end Value

namespace Draft

variable {fuel : Nat} {c : Char} {cs rest : List Char} {d : Draft}

/-- The text begins with a character that neither stands between values nor closes them. -/
def Begins (closing : Char) (cs : List Char) : Prop :=
  ∃ c tail, cs = c :: tail ∧ isSpace c = false ∧ c ≠ closing

theorem Begins.append {closing : Char} (h : Begins closing cs) (rest : List Char) :
  Begins closing (cs ++ rest)
  := by
  obtain ⟨c, tail, rfl, hc⟩ := h
  exact ⟨c, tail ++ rest, rfl, hc⟩

theorem skipSpace_cons (h : isSpace c = false) :
  skipSpace (c :: cs) = c :: cs
  := by
  rw [skipSpace, List.dropWhile_cons_of_neg (by simp [h])]

/-! ### Steps of reading -/

theorem value_quote {s : String} :
  value (fuel + 1) ((quote s).toList ++ rest) = (.string s, some rest)
  := by
  rw [toList_quote, List.cons_append, List.cons_append, List.append_assoc, List.singleton_append,
    value, skipSpace_cons (by decide)]
  simp only [stringAfterQuote?_escaped]
  rfl

theorem value_bracket {drafts : List Draft} (hbegins : Begins ']' cs)
    (h : items fuel cs = (drafts, some rest)) :
  value (fuel + 1) ('[' :: cs) = (.array drafts true, some rest)
  := by
  obtain ⟨c, tail, rfl, hspace, hc⟩ := hbegins
  rw [value, skipSpace_cons (by decide)]
  simp only [skipSpace_cons hspace]
  split
  case h_1 heq =>
    cases heq
    exact absurd rfl hc
  case h_2 =>
    rw [h]
    rfl

theorem value_brace {drafts : List (Draft × Draft)} (hbegins : Begins '\x7d' cs)
    (h : fields fuel cs = (drafts, some rest)) :
  value (fuel + 1) ('\x7b' :: cs) = (.object drafts true, some rest)
  := by
  obtain ⟨c, tail, rfl, hspace, hc⟩ := hbegins
  rw [value, skipSpace_cons (by decide)]
  simp only [skipSpace_cons hspace]
  split
  case h_1 heq =>
    cases heq
    exact absurd rfl hc
  case h_2 =>
    rw [h]
    rfl

theorem items_last (h : value fuel cs = (d, some (']' :: rest))) :
  items (fuel + 1) cs = ([d], some rest)
  := by
  rw [items, h]
  rfl

theorem items_more {drafts : List Draft} {after : Option (List Char)}
    (h : value fuel cs = (d, some (',' :: rest))) (hrest : items fuel rest = (drafts, after)) :
  items (fuel + 1) cs = (d :: drafts, after)
  := by
  rw [items, h]
  simp only [skipSpace_cons (show isSpace ',' = false by decide), hrest]

theorem fields_last {name : String} (h : value fuel cs = (d, some ('\x7d' :: rest))) :
  fields (fuel + 1) ((quote name).toList ++ ':' :: cs) = ([(.string name, d)], some rest)
  := by
  rw [toList_quote, List.cons_append, List.cons_append, List.append_assoc, List.singleton_append,
    fields, skipSpace_cons (by decide)]
  simp only [stringAfterQuote?_escaped, skipSpace_cons (show isSpace ':' = false by decide), h]
  rfl

theorem fields_more {name : String} {drafts : List (Draft × Draft)} {after : Option (List Char)}
    (h : value fuel cs = (d, some (',' :: rest))) (hrest : fields fuel rest = (drafts, after)) :
  fields (fuel + 1) ((quote name).toList ++ ':' :: cs) = ((.string name, d) :: drafts, after)
  := by
  rw [toList_quote, List.cons_append, List.cons_append, List.append_assoc, List.singleton_append,
    fields, skipSpace_cons (by decide)]
  simp only [stringAfterQuote?_escaped, skipSpace_cons (show isSpace ':' = false by decide), h,
    skipSpace_cons (show isSpace ',' = false by decide), hrest]
  rfl

/-! ### Reading of what is written -/

theorem toList_write_array {v : Value} {vs : List Value} :
  (Value.write (.array (v :: vs))).toList = '[' :: Value.itemsText (v :: vs) ++ [']']
  := by
  simp [Value.write, Value.itemsText]

theorem toList_write_object {field : String × Value} {fields : List (String × Value)} :
  (Value.write (.object (field :: fields))).toList
    = '\x7b' :: Value.fieldsText (field :: fields) ++ ['\x7d']
  := by
  simp [Value.write, Value.fieldsText]

/-- The text of a value begins before it ends a list. -/
theorem begins_write {v : Value} (h : v.Numberless) :
  Begins ']' v.write.toList
  := by
  cases h with
  | null => exact ⟨_, _, rfl, by decide, by decide⟩
  | bool b => cases b <;> exact ⟨_, _, rfl, by decide, by decide⟩
  | string s =>
    rw [Value.write, toList_quote]
    exact ⟨_, _, rfl, by decide, by decide⟩
  | @array items =>
    cases items with
    | nil => exact ⟨_, _, rfl, by decide, by decide⟩
    | cons v vs =>
      rw [toList_write_array]
      exact ⟨_, _, rfl, by decide, by decide⟩
  | @object fields =>
    cases fields with
    | nil => exact ⟨_, _, rfl, by decide, by decide⟩
    | cons field fields =>
      rw [toList_write_object]
      exact ⟨_, _, rfl, by decide, by decide⟩

theorem itemsText_cons_cons {v w : Value} {vs : List Value} :
  Value.itemsText (v :: w :: vs) = v.write.toList ++ ',' :: Value.itemsText (w :: vs)
  := by
  simp [Value.itemsText, Value.writeItems]

theorem fieldsText_cons_cons {name : String} {v : Value} {field : String × Value}
    {fields : List (String × Value)} :
  Value.fieldsText ((name, v) :: field :: fields)
    = (quote name).toList ++ ':' :: (v.write.toList ++ ',' :: Value.fieldsText (field :: fields))
  := by
  simp [Value.fieldsText, Value.writeFields]

/-- A text that is not empty leaves fuel for a step. -/
theorem exists_fuel {text : List Char} (htext : text = c :: cs) (hfuel : 2 * text.length ≤ fuel) :
  ∃ n, fuel = n + 1
  := by
  rw [htext, List.length_cons] at hfuel
  exact ⟨fuel - 1, by omega⟩

/-- The text of the value is read as the value, whatever stands behind it. -/
def ReadsBack (v : Value) : Prop :=
  ∀ fuel rest, 2 * v.write.toList.length ≤ fuel →
    value fuel (v.write.toList ++ rest) = (ofValue v, some rest)

/-- The text of items is read as the items up to the bracket that closes them. -/
theorem items_itemsText {vs : List Value} (h : ∀ v ∈ vs, ReadsBack v) (hne : vs ≠ []) {fuel : Nat}
    (hfuel : 2 * (Value.itemsText vs).length < fuel) :
  items fuel (Value.itemsText vs ++ ']' :: rest) = (ofValues vs, some rest)
  := by
  induction vs generalizing fuel with
  | nil => exact absurd rfl hne
  | cons v vs ih =>
    obtain ⟨fuel, rfl⟩ : ∃ n, fuel = n + 1 := ⟨fuel - 1, by omega⟩
    obtain ⟨hv, hvs⟩ := List.forall_mem_cons.mp h
    cases vs with
    | nil =>
      have htext : Value.itemsText [v] = v.write.toList := List.append_nil _
      rw [htext] at hfuel ⊢
      apply items_last
      apply hv
      omega
    | cons w vs =>
      rw [itemsText_cons_cons] at hfuel ⊢
      rw [List.length_append, List.length_cons] at hfuel
      rw [List.append_assoc, List.cons_append]
      apply items_more
      · apply hv
        omega
      · apply ih hvs (List.cons_ne_nil _ _)
        omega

/-- The text of fields is read as the fields up to the brace that closes them. -/
theorem fields_fieldsText {entries : List (String × Value)}
    (h : ∀ entry ∈ entries, ReadsBack entry.2) (hne : entries ≠ []) {fuel : Nat}
    (hfuel : 2 * (Value.fieldsText entries).length < fuel) :
  fields fuel (Value.fieldsText entries ++ '\x7d' :: rest) = (ofFields entries, some rest)
  := by
  induction entries generalizing fuel with
  | nil => exact absurd rfl hne
  | cons entry entries ih =>
    obtain ⟨name, v⟩ := entry
    obtain ⟨fuel, rfl⟩ : ∃ n, fuel = n + 1 := ⟨fuel - 1, by omega⟩
    have hv : ReadsBack v := h (name, v) List.mem_cons_self
    have hentries : ∀ entry ∈ entries, ReadsBack entry.2 := fun entry hentry =>
      h entry (List.mem_cons_of_mem _ hentry)
    cases entries with
    | nil =>
      have htext : Value.fieldsText [(name, v)] = (quote name).toList ++ ':' :: v.write.toList := by
        simp [Value.fieldsText, Value.writeFields]
      rw [htext] at hfuel ⊢
      rw [List.length_append, List.length_cons] at hfuel
      rw [List.append_assoc, List.cons_append]
      apply fields_last
      apply hv
      omega
    | cons entry entries =>
      rw [fieldsText_cons_cons] at hfuel ⊢
      rw [List.length_append, List.length_cons, List.length_append, List.length_cons] at hfuel
      rw [List.append_assoc, List.cons_append, List.append_assoc, List.cons_append]
      apply fields_more
      · apply hv
        omega
      · apply ih hentries (List.cons_ne_nil _ _)
        omega

/-- The text of an array is read as the array when those of its items are. -/
theorem readsBack_array {vs : List Value} (hvs : ∀ v ∈ vs, v.Numberless)
    (h : ∀ v ∈ vs, ReadsBack v) :
  ReadsBack (.array vs)
  := by
  intro fuel rest hfuel
  cases vs with
  | nil =>
    obtain ⟨fuel, rfl⟩ := exists_fuel rfl hfuel
    rfl
  | cons v vs =>
    obtain ⟨fuel, rfl⟩ := exists_fuel toList_write_array hfuel
    rw [toList_write_array, List.length_append, List.length_cons] at hfuel
    have hbegins := (begins_write (hvs v List.mem_cons_self)).append
      ((Value.writeItems vs).toList ++ ']' :: rest)
    rw [toList_write_array, List.cons_append, List.cons_append, List.append_assoc,
      List.singleton_append]
    apply value_bracket
    · rw [Value.itemsText, List.append_assoc]
      apply hbegins
    · apply items_itemsText h (List.cons_ne_nil _ _)
      omega

/-- The text of an object is read as the object when those of its fields are. -/
theorem readsBack_object {entries : List (String × Value)}
    (h : ∀ entry ∈ entries, ReadsBack entry.2) :
  ReadsBack (.object entries)
  := by
  intro fuel rest hfuel
  cases entries with
  | nil =>
    obtain ⟨fuel, rfl⟩ := exists_fuel rfl hfuel
    rfl
  | cons entry entries =>
    obtain ⟨fuel, rfl⟩ := exists_fuel toList_write_object hfuel
    rw [toList_write_object, List.length_append, List.length_cons] at hfuel
    rw [toList_write_object, List.cons_append, List.cons_append, List.append_assoc,
      List.singleton_append]
    apply value_brace
    · rw [Value.fieldsText, toList_quote]
      exact ⟨_, _, rfl, by decide, by decide⟩
    · apply fields_fieldsText h (List.cons_ne_nil _ _)
      omega

/-- The text of a value without numbers is read as the value. -/
theorem readsBack {v : Value} (h : v.Numberless) :
  ReadsBack v
  := by
  induction h with
  | null =>
    intro fuel rest hfuel
    obtain ⟨fuel, rfl⟩ := exists_fuel rfl hfuel
    rfl
  | bool b =>
    intro fuel rest hfuel
    cases b with
    | true =>
      obtain ⟨fuel, rfl⟩ := exists_fuel rfl hfuel
      rfl
    | false =>
      obtain ⟨fuel, rfl⟩ := exists_fuel rfl hfuel
      rfl
  | string s =>
    intro fuel rest hfuel
    obtain ⟨fuel, rfl⟩ := exists_fuel toList_quote hfuel
    apply value_quote
  | array hitems ih => apply readsBack_array hitems ih
  | object _ ih => apply readsBack_object ih

end Draft

/-- The text of a value without numbers is JSON throughout, and the value is read from it. -/
theorem ofText_write {v : Value} (h : v.Numberless) :
  Draft.ofText v.write = (Draft.ofValue v, true)
  := by
  have hread := Draft.readsBack h (2 * v.write.toList.length + 2) [] (by omega)
  rw [List.append_nil] at hread
  rw [Draft.ofText]
  simp only [hread]
  rfl

/-- What is read of a value is read of its text. -/
theorem readText_write {α : Type} {read : Draft → Except Fault α} {v : Value} (h : v.Numberless) :
  readText read v.write = read (.ofValue v)
  := by
  simp only [readText, ofText_write h, if_true]
  cases read (.ofValue v) <;> rfl

/-! ### Bytes -/

namespace Draft

/-- A character in front of pieces that spell nothing is in no pair, so that nothing is spelled
with more pieces in front of it. -/
theorem spell?_append_char {c : Char} {rest : List Piece} (h : spell? rest = none)
    (before : List Piece) :
  spell? (before ++ .char c :: rest) = none
  := by
  -- Spelling looks at one more piece at most, and that one is the character at the latest.
  induction before using spell?.induct
  all_goals grind [spell?]

theorem pieces?_illFormed (cs : List Char) :
  pieces? (illFormed ++ cs) = (pieces? cs).map fun (pieces, after) =>
    (.char '\ufffd' :: .unit 0xdc00 :: .unit 0xdc00 :: pieces, after)
  := by
  have hunit : hexUnit? 'd' 'c' '0' '0' = some 0xdc00 := by decide
  have heq : illFormed ++ cs = '\ufffd' :: '\\' :: 'u' :: 'd' :: 'c' :: '0' :: '0' ::
      '\\' :: 'u' :: 'd' :: 'c' :: '0' :: '0' :: cs := rfl
  rw [heq, pieces?_plain (by decide) (by decide) (by decide), pieces?_hex hunit,
    pieces?_hex hunit, Option.map_map, Option.map_map]
  rfl

/-- What stands for bytes that are not UTF-8 is not JSON outside of strings and behind a backslash,
and in a string it spells nothing. -/
theorem not_read_illFormed (fuel : Nat) (cs : List Char) :
  (value (fuel + 1) (illFormed ++ cs)).1 = .cut
    ∧ pieces? ('\\' :: illFormed ++ cs) = none
    ∧ ∀ pieces after, pieces? (illFormed ++ cs) = some (pieces, after) →
      ∀ before, spell? (before ++ pieces) = none
  := by
  refine ⟨rfl, rfl, ?_⟩
  intro pieces after hread before
  rw [pieces?_illFormed] at hread
  obtain ⟨⟨pieces, after⟩, -, heq⟩ := Option.map_eq_some_iff.mp hread
  cases heq
  apply spell?_append_char
  simp [spell?]

/-- A string with the first of two bytes only is broken. -/
example : Draft.ofText (textOfBytes [0x22, 0xc3, 0x22]) = (.brokenString, true) := by cbv

end Draft

/-- The bytes of a text are read as the text. -/
theorem textOfBytes_utf8 (text : String) :
  textOfBytes (Text.utf8 text.toList) = text
  := by
  rw [textOfBytes, Text.decodeMarking_utf8, String.ofList_toList]

end JobGraph.Json
