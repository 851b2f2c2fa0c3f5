import JobGraph.Proofs.Maps
import JobGraph.Proofs.Text.ByteOrder
import JobGraph.Proofs.Text.Splitting
import JobGraph.Proofs.Text.Utf8
import JobGraph.Template.Folder

/-!
# What a directory serves

A directory serves the templates of its files, each under its own name or the name of its file.
Of several files with a template of one name the last one counts. In which order the files are
listed, and what else there is in the directory, does not show.
-/

namespace JobGraph

/-! ### Files with templates -/

namespace DirectoryEntry

variable {e : DirectoryEntry} {name : String} {t : Template}

/-- The entry is a file with the template `t`, which is served under `name`. -/
def Holds (e : DirectoryEntry) (name : String) (t : Template) : Prop :=
  ∃ stem extension text, stem ≠ "" ∧ (extension = "yaml" ∨ extension = "yml")
    ∧ e.name = stem ++ "." ++ extension ∧ e.content = .file (Text.utf8 text.toList)
    ∧ Template.parse text = .ok t ∧ t.name.getD stem = name

/-- A name is split at its last dot, unless there is nothing in front of it. -/
theorem splitName_eq_iff {name stem extension : String} :
  splitName name = (stem, some extension)
    ↔ name ≠ ".." ∧ stem ≠ "" ∧ '.' ∉ extension.toList ∧ name = stem ++ "." ++ extension
  := by
  have hjoin : name = stem ++ "." ++ extension
      ↔ name.toList.reverse = extension.toList.reverse ++ '.' :: stem.toList.reverse := by
    rw [← String.toList_inj, ← List.reverse_inj]
    simp
  rw [splitName, List.span_eq_takeWhile_dropWhile, hjoin]
  generalize name.toList.reverse = cs
  split
  case isTrue h => simp [h]
  case isFalse h =>
    constructor
    · intro hsplit
      split at hsplit
      case h_1 front dot c back heq =>
        cases hsplit
        obtain ⟨rfl, hback⟩ := Prod.mk.inj heq
        obtain ⟨hcs, hdot⟩ := Text.dropWhile_eq_cons_iff.mp hback
        refine ⟨h, by simp, ?_, ?_⟩
        · rw [String.toList_ofList, List.mem_reverse]
          intro hmem
          have hother := List.mem_takeWhile_imp hmem
          simp at hother
        · obtain rfl : dot = '.' := by simpa using hdot
          simpa using hcs
      case h_2 => cases hsplit
    · rintro ⟨-, hstem, hdot, rfl⟩
      have hall : ∀ c ∈ extension.toList.reverse, decide (c ≠ '.') = true := by
        intro c hc
        rw [decide_eq_true_eq]
        rintro rfl
        apply hdot (List.mem_reverse.mp hc)
      obtain ⟨c, back, hback⟩ : ∃ c back, stem.toList.reverse = c :: back := by
        apply List.exists_cons_of_ne_nil
        simpa using hstem
      rw [Text.takeWhile_append_cons hall (by decide), Text.dropWhile_append_cons hall (by decide),
        hback]
      simp [← hback]

/-- What a file holds is what is read of it. -/
theorem holds_iff :
  e.Holds name t ↔ e.isTemplateFile = true ∧ e.template = .ok t ∧ e.templateName t = name
  := by
  constructor
  · rintro ⟨stem, extension, text, hstem, hextension, hname, hcontent, hparse, hfiled⟩
    have hsplit : splitName e.name = (stem, some extension) := by
      apply splitName_eq_iff.mpr ⟨_, hstem, _, hname⟩
      · intro hdots
        rw [hdots] at hname
        have hlast := congrArg (fun s : String => s.toList.getLast?) hname
        rcases hextension with rfl | rfl <;> simp at hlast
      · rcases hextension with rfl | rfl <;> decide
    have htext : Text.ofUtf8? (Text.utf8 text.toList) = some text :=
      Text.ofUtf8?_eq_some_iff.mpr rfl
    refine ⟨?_, ?_, ?_⟩
    · rcases hextension with rfl | rfl <;> simp [isTemplateFile, hcontent, extension?, hsplit]
    · simp [template, hcontent, htext, hparse]
    · rw [templateName, DirectoryEntry.stem, hsplit, hfiled]
  · rintro ⟨hfile, htemplate, hfiled⟩
    simp only [isTemplateFile, Bool.and_eq_true, Bool.or_eq_true, decide_eq_true_eq] at hfile
    obtain ⟨-, hextension⟩ := hfile
    obtain ⟨extension, hsome, hyaml⟩ : ∃ extension, e.extension? = some extension
        ∧ (extension = "yaml" ∨ extension = "yml") := by
      rcases hextension with h | h
      · exact ⟨_, h, .inl rfl⟩
      · exact ⟨_, h, .inr rfl⟩
    obtain ⟨-, hstem, -, hname⟩ := splitName_eq_iff.mp (Prod.ext rfl hsome)
    unfold template at htemplate
    split at htemplate
    case h_1 bytes hcontent =>
      split at htemplate
      case h_1 text htext =>
        rw [Text.ofUtf8?_eq_some_iff] at htext
        subst htext
        exact ⟨_, _, text, hstem, hyaml, hname, hcontent, htemplate, hfiled⟩
      case h_2 => cases htemplate
    case h_2 => cases htemplate
    case h_3 => cases htemplate

end DirectoryEntry

namespace TemplateFolder

open DirectoryEntry

variable {folder : TemplateFolder} {files entries entries' : List DirectoryEntry} {name : String}
  {t : Template}

/-! ### Files one after the other -/

/-- The file adds a template under the name. -/
def Adds (e : DirectoryEntry) (name : String) (t : Template) : Prop :=
  e.template = .ok t ∧ e.templateName t = name

/-- A file adds its template and keeps those of other names. -/
theorem get?_add {e : DirectoryEntry} :
  (folder.add e).templates.get? name = some t
    ↔ Adds e name t ∨ (∀ t', ¬ Adds e name t') ∧ folder.templates.get? name = some t
  := by
  rw [add]
  cases htemplate : e.template with
  | error fault => simp [Adds, htemplate]
  | ok own =>
    simp only [SortedMap.get?_insert, Adds, htemplate, Except.ok.injEq]
    split
    case isTrue h =>
      subst h
      constructor
      · rintro ⟨⟩
        exact .inl ⟨rfl, rfl⟩
      · rintro (⟨rfl, -⟩ | ⟨hnot, -⟩)
        · rfl
        · exact absurd ⟨rfl, rfl⟩ (hnot own)
    case isFalse h =>
      constructor
      · intro hget
        refine .inr ⟨?_, hget⟩
        rintro t' ⟨rfl, hname⟩
        apply h hname
      · rintro (⟨rfl, hname⟩ | ⟨-, hget⟩)
        · exact absurd hname h
        · exact hget

/-- Behind files in the order of their names, a name has the template of the last file that adds
one, and without such a file the one it had. -/
theorem get?_foldl_add (h : files.Pairwise fun a b => a.name < b.name) :
  (files.foldl add folder).templates.get? name = some t
    ↔ (∃ e ∈ files, Adds e name t ∧ ∀ e' ∈ files, ∀ t', Adds e' name t' → e'.name ≤ e.name)
      ∨ (∀ e ∈ files, ∀ t', ¬ Adds e name t') ∧ folder.templates.get? name = some t
  := by
  induction files generalizing folder with
  | nil => simp
  | cons first files ih =>
    obtain ⟨hfirst, hrest⟩ := List.pairwise_cons.mp h
    rw [List.foldl_cons, ih hrest, get?_add]
    constructor
    · rintro (⟨e, he, hadds, hlast⟩ | ⟨hnone, hadds | ⟨hnot, hget⟩⟩)
      · left
        refine ⟨e, List.mem_cons_of_mem _ he, hadds, ?_⟩
        intro e' he' t' hadds'
        rcases List.mem_cons.mp he' with rfl | he'
        · apply String.not_lt.mp (String.lt_asymm (hfirst e he))
        · apply hlast e' he' t' hadds'
      · left
        refine ⟨first, List.mem_cons_self, hadds, ?_⟩
        intro e' he' t' hadds'
        rcases List.mem_cons.mp he' with rfl | he'
        · apply String.le_refl
        · exact absurd hadds' (hnone e' he' t')
      · right
        exact ⟨List.forall_mem_cons.mpr ⟨hnot, hnone⟩, hget⟩
    · rintro (⟨e, he, hadds, hlast⟩ | ⟨hnone, hget⟩)
      · rcases List.mem_cons.mp he with rfl | he
        · right
          refine ⟨?_, .inl hadds⟩
          intro e' he' t' hadds'
          apply String.not_lt.mpr (hlast e' (List.mem_cons_of_mem _ he') t' hadds') (hfirst e' he')
        · left
          refine ⟨e, he, hadds, ?_⟩
          intro e' he'
          apply hlast e' (List.mem_cons_of_mem _ he')
      · right
        obtain ⟨hnot, hnone⟩ := List.forall_mem_cons.mp hnone
        exact ⟨hnone, .inr ⟨hnot, hget⟩⟩

theorem get?_foldl_add_eq_none_iff :
  (files.foldl add folder).templates.get? name = none
    ↔ (∀ e ∈ files, ∀ t', ¬ Adds e name t') ∧ folder.templates.get? name = none
  := by
  induction files generalizing folder with
  | nil => simp
  | cons first files ih =>
    have hfirst : (folder.add first).templates.get? name = none
        ↔ (∀ t', ¬ Adds first name t') ∧ folder.templates.get? name = none := by
      simp only [Option.eq_none_iff_forall_ne_some, ne_eq, get?_add]
      grind
    rw [List.foldl_cons, ih, hfirst, List.forall_mem_cons]
    grind

/-! ### The files of a directory -/

/-- No two of the files have the same name, so they stand strictly in order. -/
theorem pairwise_templateFiles (h : (entries.map DirectoryEntry.name).Nodup) :
  (templateFiles entries).Pairwise fun a b => a.name < b.name
  := by
  have hle : (templateFiles entries).Pairwise fun a b => decide (a.name ≤ b.name) = true := by
    apply List.pairwise_mergeSort
    · intro a b c hab hbc
      exact decide_eq_true (String.le_trans (of_decide_eq_true hab) (of_decide_eq_true hbc))
    · intro a b
      simp only [Bool.or_eq_true, decide_eq_true_eq]
      apply Std.le_total
  have hne : (templateFiles entries).Pairwise fun a b => a.name ≠ b.name := by
    have hfiles : ((entries.filter isTemplateFile).map DirectoryEntry.name).Nodup :=
      h.sublist (List.filter_sublist.map _)
    have hsorted := (((List.mergeSort_perm (entries.filter isTemplateFile)
      fun a b => a.name ≤ b.name).map DirectoryEntry.name).nodup_iff).mpr hfiles
    exact List.pairwise_map.mp hsorted
  apply (hle.and hne).imp
  rintro a b ⟨hab, hne⟩
  exact Std.lt_of_le_of_ne (of_decide_eq_true hab) hne

/-- The files that add a template are those that hold it. -/
theorem mem_templateFiles_adds_iff {e : DirectoryEntry} :
  e ∈ templateFiles entries ∧ Adds e name t ↔ e ∈ entries ∧ e.Holds name t
  := by
  rw [templateFiles, List.mem_mergeSort, List.mem_filter, holds_iff, Adds, and_assoc]

/-- Among the files of a directory, the last one with a template of the name has the template
`t`. -/
def Serves (entries : List DirectoryEntry) (name : String) (t : Template) : Prop :=
  ∃ e ∈ entries, e.Holds name t ∧ ∀ e' ∈ entries, ∀ t', e'.Holds name t' →
    Text.utf8 e'.name.toList ≤ Text.utf8 e.name.toList

theorem get?_ofEntries (h : (entries.map DirectoryEntry.name).Nodup) :
  (ofEntries entries).templates.get? name = some t ↔ Serves entries name t
  := by
  rw [ofEntries, get?_foldl_add (pairwise_templateFiles h)]
  simp only [empty, SortedMap.get?_empty, reduceCtorEq, and_false, or_false, Serves,
    Text.utf8_le_iff]
  constructor
  · rintro ⟨e, he, hadds, hlast⟩
    obtain ⟨he, hholds⟩ := mem_templateFiles_adds_iff.mp ⟨he, hadds⟩
    refine ⟨e, he, hholds, ?_⟩
    intro e' he' t' hholds'
    obtain ⟨he', hadds'⟩ := mem_templateFiles_adds_iff.mpr ⟨he', hholds'⟩
    apply hlast e' he' t' hadds'
  · rintro ⟨e, he, hholds, hlast⟩
    obtain ⟨he, hadds⟩ := mem_templateFiles_adds_iff.mpr ⟨he, hholds⟩
    refine ⟨e, he, hadds, ?_⟩
    intro e' he' t' hadds'
    obtain ⟨he', hholds'⟩ := mem_templateFiles_adds_iff.mp ⟨he', hadds'⟩
    apply hlast e' he' t' hholds'

theorem get?_ofEntries_eq_none_iff :
  (ofEntries entries).templates.get? name = none ↔ ∀ e ∈ entries, ∀ t, ¬ e.Holds name t
  := by
  rw [ofEntries, get?_foldl_add_eq_none_iff]
  simp only [empty, SortedMap.get?_empty, and_true]
  constructor
  · intro hnone e he t hholds
    obtain ⟨he, hadds⟩ := mem_templateFiles_adds_iff.mpr ⟨he, hholds⟩
    apply hnone e he t hadds
  · intro hnone e he t hadds
    obtain ⟨he, hholds⟩ := mem_templateFiles_adds_iff.mp ⟨he, hadds⟩
    apply hnone e he t hholds

/-- Directories with the same templates in the same files make the same folder. -/
theorem ofEntries_eq (h : (entries.map DirectoryEntry.name).Nodup)
    (h' : (entries'.map DirectoryEntry.name).Nodup)
    (hsame : ∀ e name t, e.Holds name t → (e ∈ entries' ↔ e ∈ entries)) :
  ofEntries entries' = ofEntries entries
  := by
  have hserves (name : String) (t : Template) :
      Serves entries' name t ↔ Serves entries name t := by
    simp only [Serves]
    grind
  rw [TemplateFolder.mk.injEq]
  apply SortedMap.ext_get?
  intro name
  apply Option.ext
  intro t
  rw [get?_ofEntries h', get?_ofEntries h, hserves]

/-! ### What is served -/

theorem fetch_eq_ok_iff :
  folder.fetch name = .ok t ↔ folder.templates.get? name = some t
  := by
  rw [fetch]
  cases folder.templates.get? name <;> simp

theorem fetch_eq_error_iff :
  folder.fetch name = .error (.templateNotFound name) ↔ folder.templates.get? name = none
  := by
  rw [fetch]
  cases folder.templates.get? name <;> simp

/-- A directory can be loaded, whatever its files contain. It lists the names of the templates in
its files, each once and in the order of their bytes, and serves under a name the template of the
last file that holds one. The order of the directory, and the files that hold no template, make no
difference. -/
theorem load_serves (root : String) (h : (entries.map DirectoryEntry.name).Nodup) :
  ∃ folder names, load root (some entries) = .ok folder
    ∧ folder.catalog.list = .now (.ok names)
    ∧ names.Pairwise (fun a b => Text.utf8 a.toList < Text.utf8 b.toList)
    ∧ (∀ name, name ∈ names ↔ ∃ e ∈ entries, ∃ t, e.Holds name t)
    ∧ (∀ name t, folder.catalog.fetch name = .now (.ok t) ↔ Serves entries name t)
    ∧ (∀ name, folder.catalog.fetch name = .now (.error (.templateNotFound name))
      ↔ ∀ e ∈ entries, ∀ t, ¬ e.Holds name t)
    ∧ ∀ root' entries', (entries'.map DirectoryEntry.name).Nodup →
      (∀ e name t, e.Holds name t → (e ∈ entries' ↔ e ∈ entries)) →
      load root' (some entries') = .ok folder
  := by
  refine ⟨ofEntries entries, (ofEntries entries).names, rfl, rfl, ?_, ?_, ?_, ?_, ?_⟩
  · apply List.pairwise_map.mpr
    apply (ofEntries entries).templates.sorted.imp
    intro a b hlt
    apply Text.utf8_lt_iff.mpr hlt
  · intro name
    rw [names, SortedMap.mem_names_iff]
    constructor
    · rintro ⟨t, hget⟩
      obtain ⟨e, he, hholds, -⟩ := (get?_ofEntries h).mp hget
      exact ⟨e, he, t, hholds⟩
    · rintro ⟨e, he, t, hholds⟩
      apply Option.ne_none_iff_exists'.mp
      intro hnone
      apply get?_ofEntries_eq_none_iff.mp hnone e he t hholds
  · intro name t
    simp only [catalog, Reply.now, Reply.after.injEq, true_and, fetch_eq_ok_iff, get?_ofEntries h]
  · intro name
    simp only [catalog, Reply.now, Reply.after.injEq, true_and, fetch_eq_error_iff,
      get?_ofEntries_eq_none_iff]
  · intro root' entries' h' hsame
    rw [load, ofEntries_eq h h' hsame]

/-- A directory with two templates named "scale", a file that is no template file, and a broken
one. -/
def scaleFiles : List DirectoryEntry :=
  [⟨"scale.yml", .file (Text.utf8 "\x7b\x7d".toList)⟩,
    ⟨"notes.txt", .file (Text.utf8 "\x7b\x7d".toList)⟩,
    ⟨"a.yaml", .file (Text.utf8 "metadata:\n  name: scale\n".toList)⟩,
    ⟨"b.yaml", .file [0xff]⟩]

/-- The template named by its file stands behind the one that has the name itself. -/
theorem load_serves_scaleFiles :
  ∃ folder, load "templates" (some scaleFiles) = .ok folder
    ∧ folder.catalog.fetch "scale" = .now (.ok ⟨none, none, [], []⟩)
  := by
  have hnodup : (scaleFiles.map DirectoryEntry.name).Nodup := by decide
  have hlast : ∀ e ∈ scaleFiles, Text.utf8 e.name.toList ≤ Text.utf8 "scale.yml".toList := by
    decide
  have hparse : Template.parse "\x7b\x7d" = .ok ⟨none, none, [], []⟩ := by decide +kernel
  obtain ⟨folder, names, hload, -, -, -, hfetch, -⟩ := load_serves "templates" hnodup
  refine ⟨folder, hload, (hfetch _ _).mpr ⟨_, List.mem_cons_self, ?_, ?_⟩⟩
  · exact ⟨"scale", "yml", _, by decide, .inr rfl, rfl, rfl, hparse, rfl⟩
  · intro e he _ _
    apply hlast e he

end TemplateFolder

end JobGraph
