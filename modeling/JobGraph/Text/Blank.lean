/-!
# Blank text

The characters of the Unicode property White_Space, the text left when they are taken off
both ends, and the texts that consist of nothing else.
-/

namespace JobGraph.Text

/-- The characters with the property White_Space. -/
def isBlankChar (c : Char) : Bool :=
  let code := c.toNat
  (0x09 ≤ code && code ≤ 0x0d) || code == 0x20 || code == 0x85 || code == 0xa0
    || code == 0x1680 || (0x2000 ≤ code && code ≤ 0x200a) || code == 0x2028
    || code == 0x2029 || code == 0x202f || code == 0x205f || code == 0x3000

/-- A list of characters without those that satisfy `p` at its front and its back. -/
def dropBothEnds (p : Char → Bool) (cs : List Char) : List Char :=
  ((cs.dropWhile p).reverse.dropWhile p).reverse

/-- A text without the white space around it. -/
def trim (s : String) : String :=
  String.ofList (dropBothEnds isBlankChar s.toList)

/-- A text without the white space before its end. -/
def trimEnd (s : String) : String :=
  String.ofList (s.toList.reverse.dropWhile isBlankChar).reverse

/-- A text is blank when it is white space throughout. -/
def isBlank (s : String) : Bool :=
  s.toList.all isBlankChar

/-- Dropping what satisfies `p` leaves nothing exactly when everything satisfies `p`. -/
theorem dropWhile_eq_nil_iff_all {p : Char → Bool} :
  ∀ (cs : List Char), cs.dropWhile p = [] ↔ cs.all p = true
  | [] => by simp
  | c :: cs => by
    by_cases h : p c
    · simp [h, dropWhile_eq_nil_iff_all cs]
    · simp [h]

theorem all_dropWhile {p : Char → Bool} :
  ∀ (cs : List Char), (cs.dropWhile p).all p = cs.all p
  | [] => rfl
  | c :: cs => by
    by_cases h : p c
    · simp [h, all_dropWhile cs]
    · simp [h]

/-- A text is blank exactly when trimming leaves nothing of it. -/
theorem isBlank_iff_trim_eq_empty (s : String) :
  isBlank s = true ↔ trim s = ""
  := by
  rw [← String.toList_inj, trim, String.toList_ofList, dropBothEnds, String.toList_empty,
    List.reverse_eq_nil_iff, dropWhile_eq_nil_iff_all, List.all_reverse, all_dropWhile, isBlank]

end JobGraph.Text
