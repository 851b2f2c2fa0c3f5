import JobGraph.Http.UrlReading
import JobGraph.Proofs.Http.Url
import JobGraph.Proofs.Text.Splitting

/-!
# URLs read with more segments

A text that is read as a URL of a web server, without a query and a fragment, is still read as one
when more segments are written behind it, and these are then behind its path.
-/

namespace JobGraph.Http.Url

variable {text scheme : String} {url root : Url} {cs place back slashes : List Char}
  {authority : Option Authority} {urlPath : UrlPath}

/-! ### Parts -/

/-- A URL without a query and a fragment is what is read behind its scheme. -/
theorem parse_eq_ok_iff (hquery : url.query = none) (hfragment : url.fragment = none) :
  parse text = .ok url ↔ ∃ rest, splitScheme? (significant text) = some (url.scheme, rest)
    ∧ '#' ∉ rest ∧ '?' ∉ rest
    ∧ readHierarchy url.scheme rest = .ok (url.authority, url.path)
  := by
  obtain ⟨scheme, authority, path, _, _⟩ := url
  subst hquery hfragment
  rw [parse]
  cases splitScheme? (significant text) with
  | none => simp
  | some parts =>
    obtain ⟨own, rest⟩ := parts
    simp only [Option.some.injEq, Prod.mk.injEq]
    constructor
    · intro h
      rcases hhash : splitFirst '#' rest with ⟨before, hash⟩
      rcases hmark : splitFirst '?' before with ⟨place, mark⟩
      simp only [hhash, hmark] at h
      cases hread : readHierarchy own place with
      | error fault =>
        rw [hread] at h
        cases h
      | ok read =>
        rw [hread] at h
        obtain ⟨rfl, rfl, rfl, hquery, hfragment⟩ : own = scheme ∧ read.1 = authority
            ∧ read.2 = path ∧ mark.map (escape (escapedInQuery (isKnown own))) = none
            ∧ hash.map (escape escapedInFragment) = none := by
          simpa [bind, Except.bind, pure, Except.pure] using h
        rw [Option.map_eq_none_iff] at hquery hfragment
        subst hquery hfragment
        have hnotHash := not_mem_of_splitFirst_eq_none hhash
        have hnotMark := not_mem_of_splitFirst_eq_none hmark
        rw [splitFirst_of_not_mem hnotHash] at hhash
        cases hhash
        rw [splitFirst_of_not_mem hnotMark] at hmark
        cases hmark
        exact ⟨rest, ⟨rfl, rfl⟩, hnotHash, hnotMark, hread⟩
    · rintro ⟨_, ⟨rfl, rfl⟩, hhash, hmark, hread⟩
      simp only [splitFirst_of_not_mem hhash, splitFirst_of_not_mem hmark]
      rw [hread]
      rfl

/-- Behind the scheme of a web server stand its authority, up to the first slash, and a path. -/
theorem readHierarchy_eq_ok_iff (hscheme : scheme = "http" ∨ scheme = "https") :
  readHierarchy scheme cs = .ok (authority, urlPath)
    ↔ ∃ own, readAuthority scheme
        ((cs.dropWhile (separates true)).takeWhile (!separates true ·)) = .ok own
      ∧ authority = some own
      ∧ urlPath = readPath true ((cs.dropWhile (separates true)).dropWhile (!separates true ·))
  := by
  have hread : readHierarchy scheme cs = do
      let behind := cs.dropWhile (separates true)
      let authority ← readAuthority scheme (behind.takeWhile (!separates true ·))
      return (some authority, readPath true (behind.dropWhile (!separates true ·))) := by
    rcases hscheme with rfl | rfl <;> rfl
  rw [hread]
  dsimp only
  cases readAuthority scheme ((cs.dropWhile (separates true)).takeWhile (!separates true ·)) with
  | error fault => simp [bind, Except.bind]
  | ok own => simp [bind, Except.bind, pure, Except.pure, eq_comm]

theorem readAuthority_nil (hscheme : scheme = "http" ∨ scheme = "https") :
  readAuthority scheme [] = .error .emptyHost
  := by
  rcases hscheme with rfl | rfl <;> rfl

/-- A URL of a web server has an authority. -/
theorem isSome_authority (hscheme : url.scheme = "http" ∨ url.scheme = "https")
    (hquery : url.query = none) (hfragment : url.fragment = none) (h : parse text = .ok url) :
  url.authority.isSome = true
  := by
  obtain ⟨rest, -, -, -, hread⟩ := (parse_eq_ok_iff hquery hfragment).mp h
  obtain ⟨own, -, hown, -⟩ := (readHierarchy_eq_ok_iff hscheme).mp hread
  rw [hown]
  rfl

/-! ### Segments behind a path -/

/-- Segments behind a path are read as segments behind what is read of the path. -/
theorem exists_readPath_append (hplace : ∀ c ∈ place.head?, separates true c = true) :
  ∃ front, ∀ tail, readPath true (place ++ '/' :: tail)
    = .list (addSegments front ((splitSegments true tail).map (escape escapedInPath)))
  := by
  cases place with
  | nil => exact ⟨[], fun _ => rfl⟩
  | cons c place =>
    have hc : separates true c = true := hplace c rfl
    obtain ⟨front, hfront⟩ := exists_addSegments_append []
      ((splitSegments true place).map (escape escapedInPath))
    use front
    intro tail
    have hsplit : splitSegments true (place ++ '/' :: tail)
        = splitSegments true place ++ splitSegments true tail :=
      List.splitOnP_append_cons _ _ (by decide)
    rw [List.cons_append, readPath, if_pos hc, hsplit, List.map_append, hfront]
    simp [splitSegments, List.splitOnP_ne_nil]

theorem exists_readHierarchy_append (hscheme : scheme = "http" ∨ scheme = "https")
    (hslashes : ∀ c ∈ slashes, c = '/')
    (h : readHierarchy scheme (place ++ slashes) = .ok (authority, urlPath)) :
  ∃ front, ∀ tail, readHierarchy scheme (place ++ '/' :: tail) = .ok (authority,
    .list (addSegments front ((splitSegments true tail).map (escape escapedInPath))))
  := by
  obtain ⟨own, hown, rfl, -⟩ := (readHierarchy_eq_ok_iff hscheme).mp h
  have hslash : ∀ c ∈ slashes, separates true c = true := by
    intro c hc
    rw [hslashes c hc]
    decide
  by_cases hnil : place.dropWhile (separates true) = []
  · -- Without anything but slashes there is no host.
    have hall : ∀ c ∈ place ++ slashes, separates true c = true :=
      List.forall_mem_append.mpr ⟨List.dropWhile_eq_nil_iff.mp hnil, hslash⟩
    rw [List.dropWhile_eq_nil_iff.mpr hall, List.takeWhile_nil, readAuthority_nil hscheme] at hown
    cases hown
  · have hbehind (back : List Char) : (place ++ back).dropWhile (separates true)
        = place.dropWhile (separates true) ++ back := by
      rw [List.dropWhile_append, if_neg (by simpa using hnil)]
    have hhead : ∀ c ∈ ((place.dropWhile (separates true)).dropWhile
        (!separates true ·)).head?, separates true c = true := by
      intro c hc
      have hnot := List.head?_dropWhile_not (!separates true ·) (place.dropWhile (separates true))
      rw [Option.mem_def.mp hc] at hnot
      simpa using hnot
    obtain ⟨front, hfront⟩ := exists_readPath_append hhead
    use front
    intro tail
    have htail : ∀ c ∈ ('/' :: tail).head?, (!separates true c) = false := by
      rintro c ⟨⟩
      decide
    apply (readHierarchy_eq_ok_iff hscheme).mpr
    refine ⟨own, ?_, rfl, ?_⟩
    · rw [hbehind, Text.takeWhile_append_of_head htail, ← hown, hbehind,
        Text.takeWhile_append_of_head]
      intro c hc
      rw [hslash c (List.mem_of_mem_head? hc)]
      rfl
    · rw [hbehind, Text.dropWhile_append_of_head htail, hfront]

/-! ### The scheme -/

/-- The scheme of a text is what stands in front of its first colon. -/
theorem splitScheme?_append_cons {front : List Char} (h : ':' ∉ front) (back : List Char) :
  splitScheme? (front ++ ':' :: back) = (splitScheme? (front ++ [':'])).map fun p => (p.1, back)
  := by
  simp only [splitScheme?, splitFirst_append_cons h]
  cases front with
  | nil => rfl
  | cons c more =>
    dsimp only
    split <;> rfl

/-- What stands behind a scheme and a colon can be replaced. -/
theorem exists_splitScheme?_append {rest : List Char} (hback : ':' ∉ back)
    (h : splitScheme? (cs ++ back) = some (scheme, rest)) :
  ∃ behind, rest = behind ++ back
    ∧ ∀ other, splitScheme? (cs ++ other) = some (scheme, behind ++ other)
  := by
  have hcolon : ':' ∈ cs := by
    apply Classical.byContradiction
    intro hnot
    rw [splitScheme?, splitFirst_of_not_mem (by simp [hnot, hback])] at h
    simp at h
  obtain ⟨front, behind, rfl, hfront⟩ := List.eq_append_cons_of_mem hcolon
  rw [List.append_assoc, List.cons_append, splitScheme?_append_cons hfront,
    Option.map_eq_some_iff] at h
  obtain ⟨⟨own, _⟩, hown, heq⟩ := h
  cases heq
  use behind, rfl
  intro other
  rw [List.append_assoc, List.cons_append, splitScheme?_append_cons hfront, hown]
  rfl

/-! ### Whole texts -/

/-- Tabs and line ends are blanks, so nothing else is passed over. -/
theorem filter_isLayoutChar_eq_self (h : ∀ c ∈ cs, ' ' < c) :
  cs.filter (!isLayoutChar ·) = cs
  := by
  rw [List.filter_eq_self]
  intro c hc
  have hc := h c hc
  simp only [Bool.not_eq_true', isLayoutChar, Bool.or_eq_false_iff, decide_eq_false_iff_not]
  refine ⟨⟨?_, ?_⟩, ?_⟩ <;> rintro rfl <;> exact absurd hc (by decide)

/-- Of a text that ends with no other blanks than tabs and line ends, all behind its first blanks
counts. -/
theorem significant_eq (hlast : ∀ c ∈ (cs.filter (!isLayoutChar ·)).getLast?, ' ' < c) :
  significant (String.ofList cs) = (cs.dropWhile (· ≤ ' ')).filter (!isLayoutChar ·)
  := by
  obtain ⟨blanks, hblanks⟩ := List.dropWhile_suffix (l := cs) (· ≤ ' ')
  rw [significant, String.toList_ofList, Text.dropBothEnds]
  generalize cs.dropWhile (· ≤ ' ') = behind at hblanks ⊢
  have hends : behind = (behind.reverse.dropWhile (· ≤ ' ')).reverse
      ++ (behind.reverse.takeWhile (· ≤ ' ')).reverse := by
    rw [← List.reverse_append, List.takeWhile_append_dropWhile, List.reverse_reverse]
  have hnone : (behind.reverse.takeWhile (· ≤ ' ')).reverse.filter (!isLayoutChar ·) = [] := by
    apply Classical.byContradiction
    intro hnil
    obtain ⟨c, hc⟩ := Option.ne_none_iff_exists'.mp
      (mt List.getLast?_eq_none_iff.mp hnil)
    have hblank : c ≤ ' ' := by
      have hmem := (List.mem_filter.mp (List.mem_of_getLast? hc)).1
      simpa using List.mem_takeWhile_imp (List.mem_reverse.mp hmem)
    apply Char.not_lt.mpr hblank
    apply hlast c
    rw [← hblanks, hends, List.filter_append, List.filter_append, List.getLast?_append,
      List.getLast?_append, hc]
    rfl
  conv_rhs => rw [hends, List.filter_append, hnone, List.append_nil]

theorem significant_append (hback : ∀ c ∈ back, ' ' < c)
    (hlast : ∀ c ∈ ((place ++ back).filter (!isLayoutChar ·)).getLast?, ' ' < c) :
  significant (String.ofList (place ++ back))
    = (place.dropWhile (· ≤ ' ')).filter (!isLayoutChar ·) ++ back
  := by
  rw [significant_eq hlast, Text.dropWhile_append_of_head, List.filter_append,
    filter_isLayoutChar_eq_self hback]
  intro c hc
  simpa using hback c (List.mem_of_mem_head? hc)

/-- A text that is read as a URL of a web server, without a query and a fragment, is read as one
with more segments when they are written behind it instead of the slashes at its end. -/
theorem exists_parse_append (hscheme : root.scheme = "http" ∨ root.scheme = "https")
    (hquery : root.query = none) (hfragment : root.fragment = none)
    (hslashes : ∀ c ∈ slashes, c = '/')
    (hlast : ∀ c ∈ ((place ++ slashes).filter (!isLayoutChar ·)).getLast?, ' ' < c)
    (h : parse (String.ofList (place ++ slashes)) = .ok root) :
  ∃ front, ∀ tail, (∀ c ∈ tail, ' ' < c ∧ c ≠ '?' ∧ c ≠ '#') →
    parse (String.ofList (place ++ '/' :: tail)) = .ok { root with
      path := .list (addSegments front ((splitSegments true tail).map (escape escapedInPath))) }
  := by
  have hblank : ∀ c ∈ slashes, ' ' < c := by
    intro c hc
    rw [hslashes c hc]
    decide
  have hcolon : ':' ∉ slashes := fun hc => absurd (hslashes ':' hc) (by decide)
  rw [parse_eq_ok_iff hquery hfragment, significant_append hblank hlast] at h
  obtain ⟨rest, hsplit, hhash, hmark, hread⟩ := h
  obtain ⟨behind, rfl, hbehind⟩ := exists_splitScheme?_append hcolon hsplit
  obtain ⟨front, hfront⟩ := exists_readHierarchy_append hscheme hslashes hread
  use front
  intro tail htail
  have htail' : ∀ c ∈ '/' :: tail, ' ' < c ∧ c ≠ '?' ∧ c ≠ '#' :=
    List.forall_mem_cons.mpr ⟨by decide, htail⟩
  have hblank' : ∀ c ∈ '/' :: tail, ' ' < c := fun c hc => (htail' c hc).1
  have hlast' : ∀ c ∈ ((place ++ '/' :: tail).filter (!isLayoutChar ·)).getLast?, ' ' < c := by
    intro c hc
    rw [List.filter_append, filter_isLayoutChar_eq_self hblank', List.getLast?_append,
      List.getLast?_cons, Option.some_or] at hc
    obtain rfl := Option.some.inj hc
    exact hblank' _ (List.mem_of_getLast? List.getLast?_cons)
  apply (parse_eq_ok_iff (by exact hquery) (by exact hfragment)).mpr
  rw [significant_append hblank' hlast']
  refine ⟨behind ++ '/' :: tail, hbehind _, ?_, ?_, hfront tail⟩
  · rw [List.mem_append, not_or]
    exact ⟨fun hc => hhash (List.mem_append_left _ hc), fun hc => (htail' _ hc).2.2 rfl⟩
  · rw [List.mem_append, not_or]
    exact ⟨fun hc => hmark (List.mem_append_left _ hc), fun hc => (htail' _ hc).2.1 rfl⟩

end JobGraph.Http.Url
