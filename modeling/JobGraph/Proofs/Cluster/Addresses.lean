import JobGraph.Cluster.Service
import JobGraph.Proofs.Http.UrlReading

/-!
# Addresses of templates

The URL of a template is the URL under which templates are listed, with the name as one more
segment. The name can be read back from it, so no two templates have the same URL, and none has
the URL of the list. There are exceptions: tabs and line ends in a name are left out, and so is a
name that is a dot or two dots.
-/

namespace JobGraph

open Http
open Http.Url

/-! ### Connections to web servers -/

/-- A text that is a segment of a path as it stands. -/
structure Http.IsPlainSegment (s : String) : Prop where
  ne_empty : s ≠ ""
  ne_dot : s ≠ "."
  ne_dots : s ≠ ".."
  plain : ∀ c ∈ s.toList, ' ' < c ∧ c ≠ '/' ∧ c ≠ '\\' ∧ c ≠ '%' ∧ c ≠ '?' ∧ c ≠ '#'

namespace Http.IsPlainSegment

variable {s : String}

/-- A plain segment is written in a path as it would be by itself. -/
theorem escape_eq (h : IsPlainSegment s) :
  escape escapedInPath s.toList = escape (escapedInSegment true) s.toList
  := by
  apply escape_congr
  intro c hc
  obtain ⟨-, hslash, hbackslash, hpercent, -, -⟩ := h.plain c hc
  simp [escapedInSegment, hslash, hbackslash, hpercent]

theorem escape_ne_nil (h : IsPlainSegment s) :
  escape (escapedInSegment true) s.toList ≠ []
  := by
  rw [ne_eq, escape_eq_nil_iff (escapedInSegment_percent true)]
  intro hnil
  exact h.ne_empty (String.toList_injective hnil)

/-- The texts in front of a plain segment and the segment itself are the segments of a path. -/
theorem splitSegments_eq (h : IsPlainSegment s) :
  splitSegments true ("api/v1/workflow-templates/".toList ++ s.toList)
    = ["api".toList, "v1".toList, "workflow-templates".toList] ++ [s.toList]
  := by
  have hplain : ∀ c ∈ s.toList, separates true c = false := by
    intro c hc
    obtain ⟨-, hslash, hbackslash, -⟩ := h.plain c hc
    simp [separates, hslash, hbackslash]
  have hfront : ∀ front ∈ ["api".toList, "v1".toList, "workflow-templates".toList],
      ∀ c ∈ front, separates true c = false := by
    simp [separates]
  have heq : "api/v1/workflow-templates/".toList ++ s.toList = "api".toList
      ++ '/' :: ("v1".toList ++ '/' :: ("workflow-templates".toList ++ '/' :: s.toList)) := by
    simp
  have hslash : separates true '/' = true := by decide
  rw [heq, splitSegments, List.splitOnP_append_cons_of_forall_mem (hfront _ (by simp)) _ hslash,
    List.splitOnP_append_cons_of_forall_mem (hfront _ (by simp)) _ hslash,
    List.splitOnP_append_cons_of_forall_mem (hfront _ (by simp)) _ hslash,
    List.splitOnP_eq_singleton hplain]
  rfl

/-- Put behind a path one after the other, these segments stay as they are. -/
theorem addSegments_eq (h : IsPlainSegment s) (front : List (List Char)) :
  addSegments front ((splitSegments true ("api/v1/workflow-templates/".toList ++ s.toList)).map
      (escape escapedInPath))
    = front ++ ["api".toList, "v1".toList, "workflow-templates".toList]
      ++ [escape (escapedInSegment true) s.toList]
  := by
  have hsingle : isSingleDot (escape (escapedInSegment true) s.toList) = false := by
    rw [← Bool.not_eq_true,
      isSingleDot_escape_iff (escapedInSegment_percent _) (escapedInSegment_dot _)]
    intro heq
    exact h.ne_dot (String.toList_injective heq)
  have hdouble : isDoubleDot (escape (escapedInSegment true) s.toList) = false := by
    rw [← Bool.not_eq_true,
      isDoubleDot_escape_iff (escapedInSegment_percent _) (escapedInSegment_dot _)]
    intro heq
    exact h.ne_dots (String.toList_injective heq)
  have hfront : ["api".toList, "v1".toList, "workflow-templates".toList].map
      (escape escapedInPath) = ["api".toList, "v1".toList, "workflow-templates".toList] := by
    decide
  have hplain : ∀ segment ∈ ["api".toList, "v1".toList, "workflow-templates".toList],
      isSingleDot segment = false ∧ isDoubleDot segment = false := by
    decide
  rw [h.splitSegments_eq, List.map_append, hfront, List.map_singleton, h.escape_eq,
    addSegments_of_plain, List.append_assoc]
  intro segment hsegment
  rcases List.mem_append.mp hsegment with hsegment | hsegment
  · apply hplain segment hsegment
  · obtain rfl := List.mem_singleton.mp hsegment
    exact ⟨hsingle, hdouble⟩

end Http.IsPlainSegment

namespace Connection

variable {c : Connection} {root : Url}

/-- The base of the connection is a URL of a web server, without a query and a fragment and with no
other blanks behind it than those that are passed over, and the namespace is a plain segment.

Its host is read as `Http.Host.domain` covers it: it may be an address, a domain of ASCII without
encoded labels, or another domain that the mapping of international names leaves as it is. -/
structure IsWeb (c : Connection) (root : Url) : Prop where
  parse_baseUrl : Url.parse c.baseUrl = .ok root
  scheme : root.scheme = "http" ∨ root.scheme = "https"
  query : root.query = none
  fragment : root.fragment = none
  ends : ∀ ch ∈ (c.baseUrl.toList.filter (!isLayoutChar ·)).getLast?, ' ' < ch
  plain_namespace : IsPlainSegment c.namespace

/-- Only slashes are taken off the base. -/
theorem exists_base_append (c : Connection) :
  ∃ slashes, (∀ ch ∈ slashes, ch = '/') ∧ c.baseUrl.toList = c.base.toList ++ slashes
  := by
  refine ⟨(c.baseUrl.toList.reverse.takeWhile (· = '/')).reverse, ?_, ?_⟩
  · intro ch hch
    simpa using List.mem_takeWhile_imp (List.mem_reverse.mp hch)
  · rw [base, String.toList_ofList, ← List.reverse_append, List.takeWhile_append_dropWhile,
      List.reverse_reverse]

/-- Templates are listed under a URL that has the host of the base and ends with the namespace. -/
theorem IsWeb.exists_listUrl (h : c.IsWeb root) :
  ∃ list path own, c.listUrl .templates = .ok list ∧ list.path = .list (path ++ [own]) ∧ own ≠ []
    ∧ list.authority = root.authority ∧ list.scheme = root.scheme
    ∧ list.query = none ∧ list.fragment = none
  := by
  obtain ⟨slashes, hslashes, hbase⟩ := exists_base_append c
  have hends := h.ends
  have hparse := h.parse_baseUrl
  rw [← String.ofList_toList (s := c.baseUrl), hbase] at hparse
  rw [hbase] at hends
  obtain ⟨front, hfront⟩ :=
    exists_parse_append h.scheme h.query h.fragment hslashes hends hparse
  have haddress : c.address .templates = String.ofList (c.base.toList
      ++ '/' :: ("api/v1/workflow-templates/".toList ++ c.namespace.toList)) := by
    apply String.toList_injective
    simp [address, Resource.name]
  have htail : ∀ ch ∈ "api/v1/workflow-templates/".toList ++ c.namespace.toList,
      ' ' < ch ∧ ch ≠ '?' ∧ ch ≠ '#' := by
    have hfront : ∀ ch ∈ "api/v1/workflow-templates/".toList, ' ' < ch ∧ ch ≠ '?' ∧ ch ≠ '#' := by
      simp
    intro ch hch
    rcases List.mem_append.mp hch with hch | hch
    · apply hfront ch hch
    · obtain ⟨hblank, -, -, -, hmark, hhash⟩ := h.plain_namespace.plain ch hch
      exact ⟨hblank, hmark, hhash⟩
  have hlist := hfront _ htail
  rw [← haddress, h.plain_namespace.addSegments_eq] at hlist
  exact ⟨_, _, _, hlist, rfl, h.plain_namespace.escape_ne_nil, rfl, rfl, h.query, h.fragment⟩

/-! ### Templates -/

/-- Templates are listed at one URL and asked for at others: that of a template is the one of the
list with its name as one more segment, and from the name that is shown in it any two templates
can be told apart. What is not shown are tabs and line ends, and a name that is a dot or two dots,
which leaves the URL of the list. -/
theorem IsWeb.templateUrl_extends (h : c.IsWeb root) :
  ∃ list, c.listUrl .templates = .ok list
    ∧ (∀ transport, c.list transport
      = c.ask transport catalogError (Call.build "GET" list c.authorization none) readNames)
    ∧ ∀ name, Text.isBlank name = false → ∃ url, c.templateUrl name = .ok url
      ∧ (∀ transport, c.fetch transport name = c.ask transport catalogError
        (Call.build "GET" url c.authorization none) (readTemplate name))
      ∧ (Extends list name url
        ↔ name ≠ "." ∧ name ≠ ".." ∧ ∀ ch ∈ name.toList, isLayoutChar ch = false)
      ∧ (url = list ↔ name = "." ∨ name = "..")
      ∧ ∀ other, Text.isBlank other = false →
        (c.templateUrl other = .ok url ↔ shown other = shown name)
  := by
  obtain ⟨list, path, own, hlist, hpath, hown, hauthority, hscheme, hquery, hfragment⟩ :=
    h.exists_listUrl
  have hsome : list.authority.isSome = true := by
    rw [hauthority, isSome_authority h.scheme h.query h.fragment h.parse_baseUrl]
  have hknown : isKnown list.scheme = true := by
    rw [hscheme]
    rcases h.scheme with hscheme | hscheme <;> rw [hscheme] <;> decide
  have hnil : path ++ [own] ≠ [[]] := by
    intro hnil
    obtain ⟨-, hsame⟩ : path = [] ∧ [own] = [[]] := List.append_inj' hnil rfl
    exact hown (List.cons.inj hsame).1
  have hurl (name : String) (hblank : Text.isBlank name = false) : c.templateUrl name
      = .ok { list with path := .list (pathWith (path ++ [own]) (shown name)) } := by
    rw [templateUrl, hlist]
    dsimp only
    rw [push?_eq_some hpath hnil hknown hblank]
  have hinj (cs ds : List Char) : { list with path := .list (pathWith (path ++ [own]) cs) }
      = { list with path := .list (pathWith (path ++ [own]) ds) } ↔ cs = ds := by
    constructor
    · intro heq
      apply pathWith_injective hown (UrlPath.list.inj (congrArg Url.path heq))
    · rintro rfl
      rfl
  refine ⟨list, hlist, ?_, ?_⟩
  · intro transport
    rw [Connection.list, Call.buildFor, ← listUrl, hlist]
  · intro name hblank
    refine ⟨_, hurl name hblank, ?_, extends_iff hsome hquery hfragment hpath hblank, ?_, ?_⟩
    · intro transport
      rw [fetch, hblank, hurl name hblank]
      rfl
    · rw [← shown_eq_nil_iff hblank, ← hinj _ [], pathWith, ← hpath]
    · intro other hother
      rw [hurl other hother, Except.ok.injEq, hinj]

/-- A server with one namespace. -/
def measuring : Connection :=
  ⟨"https://argo.example.org/", "virtual-measurement", none, true, .zero⟩

theorem measuring_templateUrl_extends :
  measuring.IsWeb ⟨"https", some ⟨[], "argo.example.org".toList, none⟩, .list [[]], none, none⟩
    ∧ ∃ list url, measuring.listUrl .templates = .ok list ∧ measuring.templateUrl "a/b" = .ok url
      ∧ Extends list "a/b" url ∧ url ≠ list
  := by
  have hlast : (measuring.baseUrl.toList.filter (!isLayoutChar ·)).getLast? = some '/' := by decide
  have hweb : measuring.IsWeb
      ⟨"https", some ⟨[], "argo.example.org".toList, none⟩, .list [[]], none, none⟩ := {
    parse_baseUrl := by decide +kernel
    scheme := .inr rfl
    query := rfl
    fragment := rfl
    ends := by
      rw [hlast]
      rintro ch ⟨⟩
      decide
    plain_namespace := {
      ne_empty := by decide
      ne_dot := by decide
      ne_dots := by decide
      plain := by simp [measuring] } }
  obtain ⟨list, hlist, -, hnames⟩ := hweb.templateUrl_extends
  obtain ⟨url, hurl, -, hextends, hsame, -⟩ := hnames "a/b" (by decide)
  refine ⟨hweb, list, url, hlist, hurl, hextends.mpr (by simp [isLayoutChar]), ?_⟩
  intro heq
  exact absurd (hsame.mp heq) (by decide)

/-- Two names have one URL, and one has the URL of the list. -/
theorem measuring_shared_urls :
  (measuring.templateUrl "a\tb").toOption.map Url.text
      = some "https://argo.example.org/api/v1/workflow-templates/virtual-measurement/ab"
    ∧ (measuring.templateUrl "ab").toOption.map Url.text
      = some "https://argo.example.org/api/v1/workflow-templates/virtual-measurement/ab"
    ∧ (measuring.templateUrl ".").toOption.map Url.text
      = some "https://argo.example.org/api/v1/workflow-templates/virtual-measurement"
    ∧ (measuring.listUrl .templates).toOption.map Url.text
      = some "https://argo.example.org/api/v1/workflow-templates/virtual-measurement"
  := by
  decide +kernel

end Connection

end JobGraph
