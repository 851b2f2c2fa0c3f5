import JobGraph.Graph.Argument
import Mathlib.Data.List.Infix

/-!
# What is read as a reference

A text is read as a reference to a node's output when its first separator stands right behind
the id of the node. So the written form of a reference is read back exactly when no earlier
separator starts in the id: the id is then `Referable`. Literal text is read back exactly when it
is not itself of the form of a reference.
-/

namespace JobGraph

/-! ### The first separator -/

/-- A separator that starts with the first character takes the second one, too. -/
theorem separator_isPrefix_cons_iff {c d : Char} {cs rest before after : List Char}
    (h : d :: rest = before ++ ':' :: after) (hcs : cs = before ++ [':']) :
  [':', ':'] <+: c :: cs ↔ c = ':' ∧ d = ':'
  := by
  subst hcs
  cases before with
  | nil =>
    obtain ⟨rfl, -⟩ := List.cons.inj h
    simp [eq_comm]
  | cons b before =>
    obtain ⟨rfl, -⟩ := List.cons.inj h
    simp [eq_comm]

/-- The text is split at a separator in front of which none starts. -/
theorem splitAtSeparator_eq_some_iff {cs before after : List Char} :
  splitAtSeparator cs = some (before, after)
    ↔ cs = before ++ ':' :: ':' :: after ∧ ¬ [':', ':'] <:+: before ++ [':']
  := by
  induction cs using splitAtSeparator.induct generalizing before with
  | case1 => simp [splitAtSeparator]
  | case2 c =>
    simp only [splitAtSeparator, reduceCtorEq, false_iff, not_and]
    intro h
    have hlength := congrArg List.length h
    simp only [List.length_cons, List.length_append, List.length_nil] at hlength
    omega
  | case3 c d rest hsep =>
    obtain ⟨rfl, rfl⟩ := hsep
    simp only [splitAtSeparator, and_self, if_true, Option.some.injEq, Prod.mk.injEq]
    constructor
    · rintro ⟨rfl, rfl⟩
      simp [List.infix_cons_iff]
    · rintro ⟨h, hfirst⟩
      cases before with
      | nil => simpa using h
      | cons b before =>
        obtain ⟨rfl, htail⟩ := List.cons.inj h
        exfalso
        apply hfirst
        apply List.IsPrefix.isInfix
        apply (separator_isPrefix_cons_iff htail rfl).mpr ⟨rfl, rfl⟩
  | case4 c d rest hsep ih =>
    rw [splitAtSeparator, if_neg hsep, Option.map_eq_some_iff]
    constructor
    · rintro ⟨⟨before', after'⟩, hsplit, heq⟩
      cases heq
      obtain ⟨htail, hfirst⟩ := ih.mp hsplit
      rw [htail, List.cons_append, List.cons_append, List.infix_cons_iff,
        separator_isPrefix_cons_iff htail rfl]
      simp [hsep, hfirst]
    · rintro ⟨h, hfirst⟩
      cases before with
      | nil =>
        exfalso
        apply hsep
        simp at h
        exact ⟨h.1, h.2.1⟩
      | cons b before =>
        obtain ⟨rfl, htail⟩ := List.cons.inj h
        rw [List.cons_append, List.infix_cons_iff, not_or] at hfirst
        use (before, after), ih.mpr ⟨htail, hfirst.2⟩

/-- No separator starts in front of one exactly when none stands further to the left. -/
theorem not_isInfix_iff_first {before after : List Char} :
  ¬ [':', ':'] <:+: before ++ [':']
    ↔ ∀ before' after', before ++ ':' :: ':' :: after = before' ++ ':' :: ':' :: after' →
        before.length ≤ before'.length
  := by
  constructor
  · intro hnone before' after' heq
    obtain ⟨rest, rfl, -⟩ | ⟨rest, rfl, hrest⟩ := List.append_eq_append_iff.mp heq
    · rw [List.length_append]
      apply Nat.le_add_right
    · cases rest with
      | nil => simp
      | cons c rest =>
        -- The other separator ends at the latest with the first colon of this one.
        have hfront : (c :: rest) ++ [':'] <+: ':' :: ':' :: after' := by
          rw [hrest, List.append_cons (c :: rest) ':' (':' :: after)]
          apply List.prefix_append
        have hseparator : [':', ':'] <+: (c :: rest) ++ [':'] :=
          List.prefix_of_prefix_length_le (List.prefix_append [':', ':'] after') hfront (by simp)
        exfalso
        apply hnone
        rw [List.append_assoc]
        apply List.infix_append_of_infix_right hseparator.isInfix
  · rintro hfirst ⟨front, back, heq⟩
    have hsplit : before ++ ':' :: ':' :: after
        = front ++ ':' :: ':' :: (back ++ ':' :: after) := by
      rw [List.append_cons, ← heq]
      simp
    have hle := hfirst front (back ++ ':' :: after) hsplit
    have hlength := congrArg List.length heq
    simp only [List.length_append, List.length_cons, List.length_nil] at hlength
    omega

/-! ### References -/

/-- No separator stands in the id, and none starts with its last character. -/
structure Referable (id : String) : Prop where
  whole : ¬ [':', ':'] <:+: id.toList
  last : ¬ [':'] <:+ id.toList

/-- In a referable id that stands before a separator no other one starts. -/
theorem referable_iff {id : String} :
  Referable id ↔ ¬ [':', ':'] <:+: id.toList ++ [':']
  := by
  rw [List.infix_concat_iff, List.suffix_concat_iff, not_or]
  constructor
  · rintro ⟨hwhole, hlast⟩
    constructor
    · rintro (hnil | ⟨front, heq, hsuffix⟩)
      · cases hnil
      · have hfront : [':'] ++ [':'] = front ++ [':'] := heq
        apply hlast
        rw [List.append_cancel_right hfront]
        apply hsuffix
    · apply hwhole
  · rintro ⟨hlast, hwhole⟩
    constructor
    case whole => apply hwhole
    case last =>
      intro hsuffix
      apply hlast
      right
      exact ⟨[':'], rfl, hsuffix⟩

theorem OutputRef.toList_text {r : OutputRef} :
  r.text.toList = r.source.toList ++ ':' :: ':' :: r.output.toList
  := by
  simp [OutputRef.text]

/-- A text is split into the parts of a reference when it is the written form of the reference
and its id is referable. -/
theorem splitAtSeparator_eq_parts_iff {text : String} {r : OutputRef} :
  splitAtSeparator text.toList = some (r.source.toList, r.output.toList)
    ↔ text = r.text ∧ Referable r.source
  := by
  rw [splitAtSeparator_eq_some_iff, referable_iff, ← OutputRef.toList_text, String.toList_inj]

/-- The parts of the reference stand in front of and behind the first separator of the text. -/
structure OutputRef.SplitsFirst (r : OutputRef) (text : String) : Prop where
  eq_text : text = r.text
  first : ∀ r' : OutputRef, text = r'.text → r.source.length ≤ r'.source.length

/-- There is text on both sides of the first separator. -/
def HasReferenceForm (text : String) : Prop :=
  ∃ r : OutputRef, r.SplitsFirst text ∧ r.source ≠ "" ∧ r.output ≠ ""

/-- The first separator of the written form of a reference stands behind the id exactly when the
id is referable. -/
theorem OutputRef.splitsFirst_iff {r : OutputRef} {text : String} :
  r.SplitsFirst text ↔ text = r.text ∧ Referable r.source
  := by
  constructor
  · rintro ⟨rfl, hfirst⟩
    use rfl
    rw [referable_iff, not_isInfix_iff_first]
    intro before after heq
    have htext : r.text = OutputRef.text ⟨String.ofList before, String.ofList after⟩ := by
      rw [← String.toList_inj, toList_text, toList_text]
      simpa using heq
    simpa [String.length_toList] using hfirst _ htext
  · rintro ⟨rfl, hreferable⟩
    constructor
    case eq_text => rfl
    case first =>
      intro r' htext
      rw [← String.toList_inj, toList_text, toList_text] at htext
      rw [referable_iff, not_isInfix_iff_first] at hreferable
      simpa [String.length_toList] using hreferable _ _ htext

namespace Argument

/-- What is read as a reference is its written form, with text on both sides of the separator
and an id that is referable. -/
theorem parse_eq_reference_iff {text : String} {r : OutputRef} :
  parse text = reference r
    ↔ text = r.text ∧ Referable r.source ∧ r.source ≠ "" ∧ r.output ≠ ""
  := by
  rw [← and_assoc, ← splitAtSeparator_eq_parts_iff, parse]
  cases splitAtSeparator text.toList with
  | none => simp
  | some parts =>
    obtain ⟨source, output⟩ := parts
    simp only [Option.some.injEq, Prod.mk.injEq]
    constructor
    · intro h
      split at h
      case isTrue => cases h
      case isFalse hempty =>
        cases h
        simpa using hempty
    · rintro ⟨⟨rfl, rfl⟩, hsource, houtput⟩
      simp [hsource, houtput]

-- The first of three colons in a row starts the separator.
example : parse "a:::file" = .reference ⟨"a", ":file"⟩ := by decide

/-- What is read as literal is the text itself. -/
theorem eq_of_parse_eq_literal {text s : String} (h : parse text = literal s) :
  text = s
  := by
  unfold parse at h
  split at h
  case h_1 =>
    split at h
    · cases h
      rfl
    · cases h
  case h_2 =>
    cases h
    rfl

/-- The written form of what is read is the text that was read. -/
theorem text_parse {text : String} :
  (parse text).text = text
  := by
  cases h : parse text with
  | literal s => exact (eq_of_parse_eq_literal h).symm
  | reference r => exact (parse_eq_reference_iff.mp h).1.symm

/-- A text is read as a reference exactly when it has the form of one. -/
theorem exists_parse_eq_reference_iff {text : String} :
  (∃ r, parse text = reference r) ↔ HasReferenceForm text
  := by
  apply exists_congr
  intro r
  rw [parse_eq_reference_iff, OutputRef.splitsFirst_iff, and_assoc]

theorem parse_eq_literal_iff {text : String} :
  parse text = literal text ↔ ¬ HasReferenceForm text
  := by
  rw [← exists_parse_eq_reference_iff]
  cases h : parse text with
  | literal s => simp [eq_of_parse_eq_literal h]
  | reference r => simp

/-- Writing what was read gives back the text, and the text was read as a reference exactly when
it has the form of one. Reading what was written gives back a literal exactly when its text has
not the form of a reference, and a reference exactly when it has an output and an id that is
referable. -/
theorem parse_inverts (text : String) (v : Argument) :
  (parse text).text = text
    ∧ ((∃ r, parse text = reference r) ↔ HasReferenceForm text)
    ∧ (parse v.text = v
      ↔ (∃ s, v = literal s ∧ ¬ HasReferenceForm s)
        ∨ ∃ r, v = reference r ∧ r.source ≠ "" ∧ r.output ≠ "" ∧ Referable r.source)
  := by
  refine ⟨text_parse, exists_parse_eq_reference_iff, ?_⟩
  cases v with
  | literal s => simp [Argument.text, parse_eq_literal_iff]
  | reference r => simp [Argument.text, parse_eq_reference_iff, and_comm, and_assoc]

end Argument

end JobGraph
