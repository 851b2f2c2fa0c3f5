import JobGraph.Http.Url
import JobGraph.Proofs.Http.Percent
import JobGraph.Text.Blank
import Mathlib.Tactic.SplitIfs
import Mathlib.Tactic.Use

/-!
# Names behind URLs

A name that is pushed behind the path of a URL is one more segment, from which it can be read
back. So different names make different URLs. There are exceptions: tabs and line ends in a name
are left out, and so is a name that is a dot or two dots.
-/

namespace JobGraph.Http.Url

variable {cs rest segment : List Char} {path front : List (List Char)}

/-! ### Dots -/

/-- A character in lowercase is the character, or it is 32 behind an uppercase letter. -/
theorem eq_or_of_toLower_eq {c d : Char} (h : c.toLower = d) :
  c = d ∨ 65 ≤ c.toNat ∧ c.toNat ≤ 90 ∧ d.toNat = c.toNat + 32
  := by
  subst h
  delta Char.toLower
  split
  case isTrue hupper =>
    obtain ⟨hlow, hhigh⟩ : 65 ≤ c.toNat ∧ c.toNat ≤ 90 := hupper
    refine .inr ⟨hlow, hhigh, ?_⟩
    change (c.val + 32).toNat = c.val.toNat + 32
    change c.val.toNat ≤ 90 at hhigh
    rw [UInt32.toNat_add]
    exact Nat.mod_eq_of_lt (by
      change c.val.toNat + 32 < 2 ^ 32
      omega)
  case isFalse => exact .inl rfl

/-- A dot is read back as itself, however it is written. -/
theorem exists_unescape_of_dot {word : List Char} (h : cs.map Char.toLower = '.' :: word) :
  ∃ rest, rest.map Char.toLower = word ∧ unescape cs = 0x2e :: unescape rest
  := by
  obtain ⟨c, rest, rfl, hc, hrest⟩ := List.map_eq_cons_iff.mp h
  rcases eq_or_of_toLower_eq hc with rfl | ⟨hlow, -, hd⟩
  · exact ⟨rest, hrest, unescape_cons (by decide)⟩
  · change 46 = _ at hd
    omega

theorem exists_unescape_of_escaped_dot {word : List Char}
    (h : cs.map Char.toLower = '%' :: '2' :: 'e' :: word) :
  ∃ rest, rest.map Char.toLower = word ∧ unescape cs = 0x2e :: unescape rest
  := by
  obtain ⟨a, _, rfl, ha, h⟩ := List.map_eq_cons_iff.mp h
  obtain ⟨b, _, rfl, hb, h⟩ := List.map_eq_cons_iff.mp h
  obtain ⟨c, rest, rfl, hc, hrest⟩ := List.map_eq_cons_iff.mp h
  refine ⟨rest, hrest, ?_⟩
  obtain rfl : a = '%' := by
    rcases eq_or_of_toLower_eq ha with rfl | ⟨hlow, -, hd⟩
    · rfl
    · change 37 = _ at hd
      omega
  obtain rfl : b = '2' := by
    rcases eq_or_of_toLower_eq hb with rfl | ⟨hlow, -, hd⟩
    · rfl
    · change 50 = _ at hd
      omega
  obtain rfl | rfl : c = 'e' ∨ c = 'E' := by
    rcases eq_or_of_toLower_eq hc with rfl | ⟨-, -, hd⟩
    · exact .inl rfl
    · change 101 = _ at hd
      right
      rw [← Char.toNat_inj]
      change _ = 69
      omega
  · rfl
  · rfl

theorem isSingleDot_iff :
  isSingleDot segment = true ↔ segment.map Char.toLower = ['.']
    ∨ segment.map Char.toLower = ['%', '2', 'e']
  := by
  simp [isSingleDot, ← String.toList_inj]

theorem isDoubleDot_iff :
  isDoubleDot segment = true ↔ segment.map Char.toLower = ['.', '.']
    ∨ segment.map Char.toLower = ['.', '%', '2', 'e']
    ∨ segment.map Char.toLower = ['%', '2', 'e', '.']
    ∨ segment.map Char.toLower = ['%', '2', 'e', '%', '2', 'e']
  := by
  simp [isDoubleDot, ← String.toList_inj]

theorem unescape_of_isSingleDot (h : isSingleDot segment = true) :
  unescape segment = [0x2e]
  := by
  obtain ⟨rest, hrest, hdot⟩ : ∃ rest, rest.map Char.toLower = []
      ∧ unescape segment = 0x2e :: unescape rest := by
    rcases isSingleDot_iff.mp h with h | h
    · apply exists_unescape_of_dot h
    · apply exists_unescape_of_escaped_dot h
  rw [hdot, List.map_eq_nil_iff.mp hrest, unescape]

theorem unescape_of_isDoubleDot (h : isDoubleDot segment = true) :
  unescape segment = [0x2e, 0x2e]
  := by
  obtain ⟨rest, hrest, hdot⟩ : ∃ rest, isSingleDot rest = true
      ∧ unescape segment = 0x2e :: unescape rest := by
    simp only [isSingleDot_iff]
    rcases isDoubleDot_iff.mp h with h | h | h | h
    · obtain ⟨rest, hrest, hdot⟩ := exists_unescape_of_dot h
      exact ⟨rest, .inl hrest, hdot⟩
    · obtain ⟨rest, hrest, hdot⟩ := exists_unescape_of_dot h
      exact ⟨rest, .inr hrest, hdot⟩
    · obtain ⟨rest, hrest, hdot⟩ := exists_unescape_of_escaped_dot h
      exact ⟨rest, .inl hrest, hdot⟩
    · obtain ⟨rest, hrest, hdot⟩ := exists_unescape_of_escaped_dot h
      exact ⟨rest, .inr hrest, hdot⟩
  rw [hdot, unescape_of_isSingleDot hrest]

/-- What is written for a text stands for the place itself only if the text is a dot. -/
theorem isSingleDot_escape_iff {p : Char → Bool} (hp : p '%' = true) (hdot : p '.' = false) :
  isSingleDot (escape p cs) = true ↔ cs = ['.']
  := by
  constructor
  · intro h
    rw [← unescapeText_escape hp cs, unescapeText, unescape_of_isSingleDot h]
    rfl
  · rintro rfl
    simp [escape, escapeChar, hdot]
    decide

/-- What is written for a text stands for the place before only if the text is two dots. -/
theorem isDoubleDot_escape_iff {p : Char → Bool} (hp : p '%' = true) (hdot : p '.' = false) :
  isDoubleDot (escape p cs) = true ↔ cs = ['.', '.']
  := by
  constructor
  · intro h
    rw [← unescapeText_escape hp cs, unescapeText, unescape_of_isDoubleDot h]
    rfl
  · rintro rfl
    simp [escape, escapeChar, hdot]
    decide

/-! ### Paths -/

/-- A segment without a meaning of its own is put behind the path. -/
theorem addSegment_of_plain {last : Bool} (hsingle : isSingleDot segment = false)
    (hdouble : isDoubleDot segment = false) :
  addSegment path segment last = path ++ [segment]
  := by
  simp [addSegment, hsingle, hdouble]

/-- Segments without a meaning of their own are put behind the path. -/
theorem addSegments_of_plain {segments : List (List Char)}
    (h : ∀ segment ∈ segments, isSingleDot segment = false ∧ isDoubleDot segment = false) :
  addSegments path segments = path ++ segments
  := by
  induction segments generalizing path with
  | nil => rw [addSegments, List.append_nil]
  | cons segment segments ih =>
    obtain ⟨⟨hsingle, hdouble⟩, hrest⟩ := List.forall_mem_cons.mp h
    cases segments with
    | nil => rw [addSegments, addSegment_of_plain hsingle hdouble]
    | cons next segments =>
      rw [addSegments, addSegment_of_plain hsingle hdouble, ih hrest, List.append_assoc]
      · rfl
      · simp

/-- Segments that do not come last make a path to which those that come last are added. -/
theorem exists_addSegments_append (path segments : List (List Char)) :
  ∃ front, ∀ rest, rest ≠ [] → addSegments path (segments ++ rest) = addSegments front rest
  := by
  induction segments generalizing path with
  | nil => exact ⟨path, fun _ _ => rfl⟩
  | cons segment segments ih =>
    obtain ⟨front, hfront⟩ := ih (addSegment path segment false)
    use front
    intro rest hrest
    rw [List.cons_append, addSegments, hfront rest hrest]
    simp [hrest]

/-! ### Names -/

theorem escapedInSegment_percent (known : Bool) :
  escapedInSegment known '%' = true
  := by
  cases known <;> decide

theorem escapedInSegment_dot (known : Bool) :
  escapedInSegment known '.' = false
  := by
  cases known <;> decide

variable {list : Url} {name other : String} {path : List (List Char)} {own : List Char}

/-- What is shown of a name in a URL: nothing if it is a dot or two dots, else all but its tabs
and line ends. -/
def shown (name : String) : List Char :=
  if name = "." ∨ name = ".." then [] else name.toList.filter (!isLayoutChar ·)

/-- Something is left of a name that is not blank. -/
theorem filter_isLayoutChar_ne_nil (hblank : Text.isBlank name = false) :
  name.toList.filter (!isLayoutChar ·) ≠ []
  := by
  obtain ⟨c, hc, hchar⟩ : ∃ c ∈ name.toList, Text.isBlankChar c = false := by
    simpa [Text.isBlank] using hblank
  have hlayout : isLayoutChar c = false := by
    rw [← Bool.not_eq_true]
    intro hlayout
    simp only [isLayoutChar, Bool.or_eq_true, decide_eq_true_eq] at hlayout
    rcases hlayout with (rfl | rfl) | rfl <;> exact absurd hchar (by decide)
  apply List.ne_nil_of_mem (List.mem_filter.mpr ⟨hc, by rw [hlayout]; rfl⟩)

theorem shown_eq_nil_iff (hblank : Text.isBlank name = false) :
  shown name = [] ↔ name = "." ∨ name = ".."
  := by
  rw [shown]
  split
  case isTrue hdots => simp [hdots]
  case isFalse hdots => simp only [hdots, filter_isLayoutChar_ne_nil hblank]

theorem shown_eq_toList_iff (hblank : Text.isBlank name = false) :
  shown name = name.toList
    ↔ name ≠ "." ∧ name ≠ ".." ∧ ∀ c ∈ name.toList, isLayoutChar c = false
  := by
  rw [shown]
  split
  case isTrue hdots =>
    rcases hdots with rfl | rfl <;> simp
  case isFalse hdots =>
    rw [not_or] at hdots
    simp [List.filter_eq_self, hdots]

/-- A path with what is shown of a name behind it. -/
def pathWith (path : List (List Char)) : List Char → List (List Char)
  | [] => path
  | c :: cs => addSegment path (escape (escapedInSegment true) (c :: cs)) true

/-- Only what looks like dots is not put behind the path as it is written. -/
theorem pathWith_eq (path : List (List Char)) (cs : List Char) :
  pathWith path cs = if cs = [] then path
    else if cs = ['.', '.'] then path.dropLast ++ [[]]
    else if cs = ['.'] then path ++ [[]]
    else path ++ [escape (escapedInSegment true) cs]
  := by
  cases cs with
  | nil => rfl
  | cons c cs =>
    rw [pathWith, addSegment]
    simp only [isDoubleDot_escape_iff (escapedInSegment_percent _) (escapedInSegment_dot _),
      isSingleDot_escape_iff (escapedInSegment_percent _) (escapedInSegment_dot _), reduceCtorEq,
      if_false, if_true]

/-- What is shown differs in different paths. -/
theorem pathWith_injective (hown : own ≠ []) :
  Function.Injective (pathWith (path ++ [own]))
  := by
  have hescape {cs ds : List Char} : escape (escapedInSegment true) cs
      = escape (escapedInSegment true) ds ↔ cs = ds :=
    (escape_injective (escapedInSegment_percent true)).eq_iff
  have hnil {cs : List Char} : escape (escapedInSegment true) cs = [] ↔ cs = [] :=
    escape_eq_nil_iff (escapedInSegment_percent true)
  have hrest (cs : List Char) : pathWith (path ++ [own]) cs = path ++
      if cs = [] then [own] else if cs = ['.', '.'] then [[]] else if cs = ['.'] then [own, []]
      else [own, escape (escapedInSegment true) cs] := by
    rw [pathWith_eq, List.dropLast_concat]
    split_ifs <;> simp
  intro cs ds h
  rw [hrest, hrest] at h
  have h := List.append_cancel_left h
  grind

/-- A name that is not blank is put behind the path by what is shown of it. -/
theorem push?_eq_some (hpath : list.path = .list path) (hnil : path ≠ [[]])
    (hknown : isKnown list.scheme = true) (hblank : Text.isBlank name = false) :
  list.push? name = some { list with path := .list (pathWith path (shown name)) }
  := by
  rw [push?, hpath]
  dsimp only
  by_cases hdots : name = "." ∨ name = ".."
  · rw [if_pos hdots, (shown_eq_nil_iff hblank).mpr hdots, pathWith, ← hpath]
  · obtain ⟨c, cs, hshown⟩ := List.exists_cons_of_ne_nil (filter_isLayoutChar_ne_nil hblank)
    rw [if_neg hdots, if_neg hnil, segment, hknown, shown, if_neg hdots, hshown, pathWith]

/-- The URL has one more segment than the other, and the name is read back from that segment. -/
def Extends (list : Url) (name : String) (url : Url) : Prop :=
  ∃ path segment, list.path = .list path ∧ url = { list with path := .list (path ++ [segment]) }
    ∧ url.text = list.text ++ "/" ++ String.ofList segment
    ∧ (∀ c ∈ segment, c ∉ "/?#".toList)
    ∧ unescapeText segment = name.toList

theorem text_with_path (hauthority : list.authority.isSome = true) (hquery : list.query = none)
    (hfragment : list.fragment = none) (hpath : list.path = .list path) (segment : List Char) :
  Url.text { list with path := .list (path ++ [segment]) }
    = list.text ++ "/" ++ String.ofList segment
  := by
  obtain ⟨authority, hauthority⟩ := Option.isSome_iff_exists.mp hauthority
  apply String.toList_injective
  simp [text, characters, hauthority, hquery, hfragment, hpath, UrlPath.text]

/-- The name can be read back as long as all of it is shown. -/
theorem extends_iff (hauthority : list.authority.isSome = true) (hquery : list.query = none)
    (hfragment : list.fragment = none) (hpath : list.path = .list path)
    (hblank : Text.isBlank name = false) :
  Extends list name { list with path := .list (pathWith path (shown name)) }
    ↔ name ≠ "." ∧ name ≠ ".." ∧ ∀ c ∈ name.toList, isLayoutChar c = false
  := by
  rw [← shown_eq_toList_iff hblank]
  have hnil : name.toList ≠ [] := by
    intro hnil
    simp [Text.isBlank, hnil] at hblank
  constructor
  · rintro ⟨own, segment, hown, hurl, -, -, hname⟩
    have hempty : segment ≠ [] := by
      rintro rfl
      apply hnil hname.symm
    obtain rfl : path = own := by
      rw [hpath] at hown
      cases hown
      rfl
    have heq : pathWith path (shown name) = path ++ [segment] :=
      UrlPath.list.inj (congrArg Url.path hurl)
    rw [pathWith_eq] at heq
    split_ifs at heq
    · exact absurd (List.self_eq_append_right.mp heq) (List.cons_ne_nil _ _)
    · exact absurd (List.cons.inj (List.append_inj' heq rfl).2).1.symm hempty
    · exact absurd (List.cons.inj (List.append_inj' heq rfl).2).1.symm hempty
    · obtain ⟨-, hsegment⟩ := List.append_inj' heq rfl
      rw [← hname, ← (List.cons.inj hsegment).1, unescapeText_escape (escapedInSegment_percent _)]
  · intro hshown
    have hne : name.toList ≠ ['.'] ∧ name.toList ≠ ['.', '.'] := by
      constructor
      · intro hdot
        obtain rfl : name = "." := String.toList_injective hdot
        cases hshown
      · intro hdots
        obtain rfl : name = ".." := String.toList_injective hdots
        cases hshown
    rw [pathWith_eq, hshown, if_neg hnil, if_neg hne.2, if_neg hne.1]
    refine ⟨path, _, hpath, rfl, text_with_path hauthority hquery hfragment hpath _, ?_,
      unescapeText_escape (escapedInSegment_percent _) _⟩
    intro c hc hmem
    have hends : c = '/' ∨ c = '?' ∨ c = '#' := by simpa using hmem
    rcases hends with rfl | rfl | rfl <;> exact not_mem_escape (by decide) (by decide) hc

end JobGraph.Http.Url
