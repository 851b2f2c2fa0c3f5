import JobGraph.Graph.Order
import JobGraph.Proofs.Graph.Acceptance
import JobGraph.Proofs.Maps
import Mathlib.Data.Fintype.Card
import Mathlib.Data.Fintype.EquivFin
import Mathlib.Data.Fintype.Sets

/-!
# What the order of execution lists

`Graph.Topological` says that nodes are listed once, each after the sources of its edges. The
order of execution is such a list for every graph, and a node that it leaves out waits for a
source that it leaves out, too. So the order of an accepted graph lists every node.
-/

namespace JobGraph

namespace Graph

variable {g : Graph}

/-- After the nodes `listed`, further nodes of the graph are listed, each of them new and each
after the sources of the edges into it. -/
def Topological (g : Graph) : List String → List String → Prop
  | _, [] => True
  | listed, id :: order =>
    id ∈ g.ids ∧ id ∉ listed ∧ (∀ s, g.Joins s id → s ∈ listed)
      ∧ g.Topological (listed ++ [id]) order

/-- The number of different edges into a node from nodes that are not listed. -/
def awaited (g : Graph) (listed : List String) (id : String) : Nat :=
  g.incoming.countP fun e => e.target = id ∧ e.source ∉ listed

/-- The targets of the edges that leave a node for a node of the graph. -/
def targets (g : Graph) (id : String) : List String :=
  (g.incoming.filter (·.source = id)).map Edge.target

/-! ### Positions and edges -/

/-- The node with this position stands there among the ids. -/
theorem position?_eq_some {id : String} {place : Nat} (h : g.position? id = some place) :
  g.ids[place]? = some id
  := by
  obtain ⟨i, hi, rfl⟩ := Option.map_eq_some_iff.mp h
  obtain ⟨hlt, hget, -⟩ := List.idxOf?_eq_some_iff.mp hi
  rw [List.length_reverse] at hlt
  rw [List.getElem_reverse] at hget
  have hlength : g.nodes.length = g.ids.length := (List.length_map _).symm
  rw [hlength, List.getElem?_eq_getElem (by omega), hget]

/-- Different nodes have different positions. -/
theorem position?_inj {s t : String} {place : Nat} (hs : g.position? s = some place)
    (ht : g.position? t = some place) :
  s = t
  := Option.some.inj ((position?_eq_some hs).symm.trans (position?_eq_some ht))

theorem exists_position? {id : String} :
  (∃ place, g.position? id = some place) ↔ id ∈ g.ids
  := by
  rw [← Option.isSome_iff_exists, position?, Option.isSome_map, List.isSome_idxOf?,
    List.mem_reverse]

theorem mem_incoming {e : Edge} :
  e ∈ g.incoming ↔ g.Joins e.source e.target ∧ e.target ∈ g.ids
  := by
  simp [incoming, Joins]

theorem mem_targets {s t : String} :
  t ∈ g.targets s ↔ g.Joins s t ∧ t ∈ g.ids
  := by
  simp only [targets, List.mem_map, List.mem_filter, decide_eq_true_eq, mem_incoming]
  constructor
  · rintro ⟨e, ⟨he, rfl⟩, rfl⟩
    apply he
  · intro h
    exact ⟨⟨s, t⟩, ⟨h, rfl⟩, rfl⟩

/-- A node awaits nothing when all sources of the edges into it are listed. -/
theorem awaited_eq_zero_iff {listed : List String} {id : String} (hid : id ∈ g.ids) :
  g.awaited listed id = 0 ↔ ∀ s, g.Joins s id → s ∈ listed
  := by
  simp only [awaited, List.countP_eq_zero, decide_eq_true_eq, not_and, Decidable.not_not]
  constructor
  · intro h s hs
    apply h ⟨s, id⟩ (mem_incoming.mpr ⟨hs, hid⟩) rfl
  · rintro h e he rfl
    apply h e.source (mem_incoming.mp he).1

/-- A node stands among the targets of another one as often as edges lead there from it. -/
theorem count_targets {id t : String} :
  (g.targets id).count t = g.incoming.countP fun e => e.target = t ∧ e.source = id
  := by
  rw [targets, List.count, List.countP_map, List.countP_filter]
  apply List.countP_congr
  intro e _
  simp

/-- The edges from nodes not listed are those from the next node and those from the others. -/
theorem awaited_eq_add_count {listed : List String} {id t : String} (hid : id ∉ listed) :
  g.awaited listed t = g.awaited (listed ++ [id]) t + (g.targets id).count t
  := by
  rw [count_targets, awaited, awaited]
  induction g.incoming with
  | nil => rfl
  | cons e edges ih =>
    rw [List.countP_cons, List.countP_cons, List.countP_cons, ih]
    by_cases htarget : e.target = t
    case neg => simp [htarget]
    case pos =>
      by_cases hsource : e.source = id
      · simp [htarget, hsource, hid]
        omega
      · by_cases hlisted : e.source ∈ listed
        · simp [htarget, hsource, hlisted]
        · simp [htarget, hsource, hlisted]
          omega

/-- Nodes that await nothing still do so when one of them is listed. -/
theorem awaited_concat_eq_zero {listed : List String} {id : String} (hnew : id ∉ listed)
    (hzero : g.awaited listed id = 0) (hclosed : ∀ t ∈ listed, g.awaited listed t = 0) :
  ∀ t ∈ listed ++ [id], g.awaited (listed ++ [id]) t = 0
  := by
  intro t ht
  have hold : g.awaited listed t = 0 := by
    rcases List.mem_append.mp ht with ht | ht
    · apply hclosed t ht
    · rw [List.mem_singleton.mp ht]
      apply hzero
  rw [awaited_eq_add_count hnew] at hold
  omega

end Graph

/-! ### The schedule -/

namespace Schedule

theorem mem_insertReady_imp {position : Nat} {id : String} {ready : List (Nat × String)}
    {x : Nat × String} (h : x ∈ insertReady position id ready) :
  x = (position, id) ∨ x ∈ ready
  := by
  induction ready with
  | nil => exact .inl (List.mem_singleton.mp h)
  | cons entry ready ih =>
    obtain ⟨own, other⟩ := entry
    rw [insertReady] at h
    split at h
    · apply List.mem_cons.mp h
    · split at h
      · rcases List.mem_cons.mp h with rfl | h
        · exact .inl rfl
        · exact .inr (List.mem_cons_of_mem _ h)
      · rcases List.mem_cons.mp h with rfl | h
        · exact .inr List.mem_cons_self
        · rcases ih h with heq | h
          · exact .inl heq
          · exact .inr (List.mem_cons_of_mem _ h)

/-- A new entry joins the others when no other node has its position. -/
theorem mem_insertReady {position : Nat} {id : String} {ready : List (Nat × String)}
    (h : ∀ other, (position, other) ∈ ready → other = id) {x : Nat × String} :
  x ∈ insertReady position id ready ↔ x = (position, id) ∨ x ∈ ready
  := by
  induction ready with
  | nil => simp [insertReady]
  | cons entry ready ih =>
    obtain ⟨own, other⟩ := entry
    rw [insertReady]
    split
    case isTrue => apply List.mem_cons
    case isFalse =>
      split
      case isTrue heq =>
        subst heq
        obtain rfl := h other List.mem_cons_self
        simp
      case isFalse =>
        rw [List.mem_cons, ih fun other hmem => h other (List.mem_cons_of_mem _ hmem),
          List.mem_cons]
        tauto

/-- The entries stay in the order of their positions. -/
theorem pairwise_insertReady {position : Nat} {id : String} {ready : List (Nat × String)}
    (h : ready.Pairwise (fun x y => x.1 < y.1)) :
  (insertReady position id ready).Pairwise (fun x y => x.1 < y.1)
  := by
  induction ready with
  | nil => simp [insertReady]
  | cons entry ready ih =>
    obtain ⟨own, other⟩ := entry
    obtain ⟨hfirst, hrest⟩ := List.pairwise_cons.mp h
    rw [insertReady]
    split
    case isTrue hlt =>
      refine List.pairwise_cons.mpr ⟨?_, h⟩
      intro x hx
      rcases List.mem_cons.mp hx with rfl | hx
      · apply hlt
      · apply Nat.lt_trans hlt (hfirst x hx)
    case isFalse hge =>
      split
      case isTrue heq => apply List.pairwise_cons.mpr ⟨heq ▸ hfirst, hrest⟩
      case isFalse hne =>
        refine List.pairwise_cons.mpr ⟨?_, ih hrest⟩
        intro x hx
        rcases mem_insertReady_imp hx with rfl | hx
        · omega
        · apply hfirst x hx

/-- A node that awaits nothing joins the others, and any other node leaves them as they are. -/
theorem mem_addReady {position : String → Option Nat} {id : String} {count : Nat}
    {ready : List (Nat × String)}
    (h : ∀ place other, position id = some place → (place, other) ∈ ready → other = id)
    {place : Nat} {t : String} :
  (place, t) ∈ addReady position id count ready
    ↔ t = id ∧ count = 0 ∧ position id = some place ∨ (place, t) ∈ ready
  := by
  unfold addReady
  split
  case h_1 own hown =>
    rw [mem_insertReady (h own · hown), hown, Prod.mk.injEq, Option.some.injEq]
    simp only [true_and, and_comm, eq_comm]
  case h_2 hnot =>
    constructor
    · exact .inr
    · rintro (⟨-, rfl, hplace⟩ | hmem)
      · exact absurd hplace (hnot place rfl)
      · apply hmem

theorem pairwise_addReady {position : String → Option Nat} {id : String} {count : Nat}
    {ready : List (Nat × String)} (h : ready.Pairwise (fun x y => x.1 < y.1)) :
  (addReady position id count ready).Pairwise (fun x y => x.1 < y.1)
  := by
  unfold addReady
  split
  · apply pairwise_insertReady h
  · apply h

/-- What holds of a schedule when the nodes `listed` are listed and the nodes `rest` are still
to be released. -/
structure Fits (g : Graph) (listed rest : List String) (s : Schedule) : Prop where
  waiting : ∀ t, s.waiting.get? t =
    if t ∈ g.ids then some (g.awaited listed t + rest.count t) else none
  ready : ∀ place t, (place, t) ∈ s.ready ↔
    g.position? t = some place ∧ t ∉ listed ∧ g.awaited listed t + rest.count t = 0
  sorted : s.ready.Pairwise (fun x y => x.1 < y.1)
  pending : ∀ t ∈ rest, t ∈ g.ids ∧ t ∉ listed

variable {g : Graph} {listed rest : List String} {s : Schedule}

/-- A release takes one off the number of its node, which is ready when nothing is left. -/
theorem Fits.release {t : String} (h : Fits g listed (t :: rest) s) :
  Fits g listed rest (s.release g.position? t)
  := by
  obtain ⟨hid, hnew⟩ := h.pending t List.mem_cons_self
  have hcount : s.waiting.get? t = some (g.awaited listed t + rest.count t + 1) := by
    rw [h.waiting t, if_pos hid, List.count_cons_self, Nat.add_assoc]
  have hother : ∀ u, u ≠ t → (t :: rest).count u = rest.count u := by
    intro u hu
    apply List.count_cons_of_ne (Ne.symm hu)
  -- The node itself waited for the release, so it was not ready.
  have hold : ∀ place u, (place, u) ∈ s.ready ↔
      u ≠ t ∧ g.position? u = some place ∧ u ∉ listed
        ∧ g.awaited listed u + rest.count u = 0 := by
    intro place u
    rw [h.ready]
    by_cases heq : u = t
    · subst heq
      simp
    · rw [hother u heq]
      simp [heq]
  have hplaces : ∀ place other, g.position? t = some place → (place, other) ∈ s.ready →
      other = t := by
    intro place other hplace hmem
    apply Graph.position?_inj ((hold place other).mp hmem).2.1 hplace
  have hrelease : s.release g.position? t =
      ⟨s.waiting.insert t (g.awaited listed t + rest.count t),
        addReady g.position? t (g.awaited listed t + rest.count t) s.ready⟩ := by
    simp only [Schedule.release, hcount]
  rw [hrelease]
  constructor
  case waiting =>
    intro u
    rw [Dictionary.get?_insert]
    split
    case isTrue heq =>
      subst heq
      rw [if_pos hid]
    case isFalse hne => rw [h.waiting u, hother u (Ne.symm hne)]
  case ready =>
    intro place u
    rw [mem_addReady hplaces, hold]
    constructor
    · rintro (⟨rfl, hzero, hplace⟩ | ⟨-, hu⟩)
      · exact ⟨hplace, hnew, hzero⟩
      · apply hu
    · rintro ⟨hplace, hu, hzero⟩
      by_cases heq : u = t
      · subst heq
        exact .inl ⟨rfl, hzero, hplace⟩
      · exact .inr ⟨heq, hplace, hu, hzero⟩
  case sorted => apply pairwise_addReady h.sorted
  case pending =>
    intro u hu
    apply h.pending u (List.mem_cons_of_mem _ hu)

theorem Fits.foldl_release (h : Fits g listed rest s) :
  Fits g listed [] (rest.foldl (Schedule.release g.position?) s)
  := by
  induction rest generalizing s with
  | nil => apply h
  | cons t rest ih => apply ih h.release

/-- The first node that is ready is listed, and its targets are to be released. -/
theorem Fits.pop {place : Nat} {id : String} {ready : List (Nat × String)}
    (h : Fits g listed [] s) (hclosed : ∀ t ∈ listed, g.awaited listed t = 0)
    (hready : s.ready = (place, id) :: ready) :
  id ∈ g.ids ∧ id ∉ listed ∧ g.awaited listed id = 0
    ∧ Fits g (listed ++ [id]) (g.targets id) ⟨s.waiting, ready⟩
  := by
  have hmem : (place, id) ∈ s.ready := by rw [hready]; exact List.mem_cons_self
  obtain ⟨hplace, hnew, hzero⟩ := (h.ready place id).mp hmem
  rw [List.count_nil, Nat.add_zero] at hzero
  have hid := Graph.exists_position?.mp ⟨place, hplace⟩
  have hsorted := h.sorted
  rw [hready] at hsorted
  obtain ⟨hfirst, hrest⟩ := List.pairwise_cons.mp hsorted
  refine ⟨hid, hnew, hzero, ?_⟩
  constructor
  case waiting =>
    intro t
    rw [h.waiting t, List.count_nil, Nat.add_zero, ← Graph.awaited_eq_add_count hnew]
  case ready =>
    intro place' t
    have hin : (place', t) ∈ ready ↔ (place', t) ∈ s.ready ∧ t ≠ id := by
      rw [hready, List.mem_cons, Prod.mk.injEq]
      constructor
      · intro hmem'
        refine ⟨.inr hmem', ?_⟩
        rintro rfl
        have hplace' := ((h.ready place' t).mp (by rw [hready]; exact .tail _ hmem')).1
        rw [hplace] at hplace'
        have := hfirst (place', t) hmem'
        cases hplace'
        apply Nat.lt_irrefl _ this
      · rintro ⟨⟨-, rfl⟩ | hmem', hne⟩
        · exact absurd rfl hne
        · apply hmem'
    rw [hin, h.ready, ← Graph.awaited_eq_add_count hnew]
    simp only [List.count_nil, Nat.add_zero, List.mem_append, List.mem_singleton, not_or]
    tauto
  case sorted => apply hrest
  case pending =>
    intro t ht
    obtain ⟨hjoins, htid⟩ := Graph.mem_targets.mp ht
    refine ⟨htid, ?_⟩
    -- A node listed before awaits nothing, and neither does the node listed now.
    intro hlisted
    rcases List.mem_append.mp hlisted with hlisted | hlisted
    · apply hnew ((Graph.awaited_eq_zero_iff htid).mp (hclosed t hlisted) id hjoins)
    · obtain rfl := List.mem_singleton.mp hlisted
      apply hnew ((Graph.awaited_eq_zero_iff htid).mp hzero t hjoins)

theorem list_of_ready_nil {position : String → Option Nat} {next : String → List String}
    (hready : s.ready = []) :
  s.list position next = []
  := by
  rw [list]
  split
  case h_1 => rfl
  case h_2 h => rw [hready] at h; cases h

theorem list_of_ready_cons {position : String → Option Nat} {next : String → List String}
    {place : Nat} {id : String} {ready : List (Nat × String)}
    (hready : s.ready = (place, id) :: ready) :
  s.list position next
    = id :: ((next id).foldl (Schedule.release position) ⟨s.waiting, ready⟩).list position next
  := by
  rw [list]
  split
  case h_1 h => rw [hready] at h; cases h
  case h_2 h => rw [hready] at h; cases h; rfl

/-- What a schedule lists is in topological order, and each node that it leaves out has a
source that is not listed. -/
theorem Fits.list_spec (h : Fits g listed [] s) (hclosed : ∀ t ∈ listed, g.awaited listed t = 0) :
  g.Topological listed (s.list g.position? g.targets)
    ∧ ∀ t ∈ g.ids, t ∉ listed ++ s.list g.position? g.targets →
      ∃ u, g.Joins u t ∧ u ∉ listed ++ s.list g.position? g.targets
  := by
  induction s using list.induct g.position? g.targets generalizing listed with
  | case1 s hready =>
    rw [list_of_ready_nil hready, List.append_nil]
    refine ⟨trivial, ?_⟩
    intro t hid hnot
    obtain ⟨place, hplace⟩ := Graph.exists_position?.mpr hid
    by_contra hall
    have hzero : g.awaited listed t = 0 := by
      rw [Graph.awaited_eq_zero_iff hid]
      intro u hu
      by_contra hu'
      apply hall ⟨u, hu, hu'⟩
    have hmem := (h.ready place t).mpr ⟨hplace, hnot, by rw [hzero, List.count_nil]⟩
    rw [hready] at hmem
    cases hmem
  | case2 s place id ready hready ih =>
    obtain ⟨hid, hnew, hzero, hfits⟩ := h.pop hclosed hready
    have hclosed' := Graph.awaited_concat_eq_zero hnew hzero hclosed
    obtain ⟨htopological, hcomplete⟩ := ih hfits.foldl_release hclosed'
    rw [list_of_ready_cons hready]
    rw [List.append_assoc, List.singleton_append] at hcomplete
    refine ⟨⟨hid, hnew, ?_, htopological⟩, hcomplete⟩
    exact (Graph.awaited_eq_zero_iff hid).mp hzero

end Schedule

/-! ### The order of execution -/

namespace Graph

variable {g : Graph}

/-- The nodes of a list of counts that await nothing are ready at their positions. -/
theorem mem_foldl_addReady {entries : List (String × Nat)} {ready : List (Nat × String)}
    (h : ∀ place t, (place, t) ∈ ready → g.position? t = some place) {place : Nat} {t : String} :
  (place, t) ∈ entries.foldl
      (fun ready (id, count) => Schedule.addReady g.position? id count ready) ready
    ↔ (t, 0) ∈ entries ∧ g.position? t = some place ∨ (place, t) ∈ ready
  := by
  induction entries generalizing ready with
  | nil => simp
  | cons entry entries ih =>
    obtain ⟨id, count⟩ := entry
    have hplaces : ∀ place other, g.position? id = some place → (place, other) ∈ ready →
        other = id := by
      intro place other hplace hmem
      apply position?_inj (h place other hmem) hplace
    rw [List.foldl_cons, ih]
    · rw [Schedule.mem_addReady hplaces, List.mem_cons, Prod.mk.injEq]
      constructor
      · rintro (⟨hmem, hplace⟩ | ⟨rfl, rfl, hplace⟩ | hmem)
        · exact .inl ⟨.inr hmem, hplace⟩
        · exact .inl ⟨.inl ⟨rfl, rfl⟩, hplace⟩
        · exact .inr hmem
      · rintro (⟨⟨rfl, rfl⟩ | hmem, hplace⟩ | hmem)
        · exact .inr (.inl ⟨rfl, rfl, hplace⟩)
        · exact .inl ⟨hmem, hplace⟩
        · exact .inr (.inr hmem)
    · intro place t hmem
      rcases (Schedule.mem_addReady hplaces).mp hmem with ⟨rfl, -, hplace⟩ | hmem
      · apply hplace
      · apply h place t hmem

theorem pairwise_foldl_addReady {entries : List (String × Nat)} {ready : List (Nat × String)}
    (h : ready.Pairwise (fun x y => x.1 < y.1)) :
  (entries.foldl (fun ready (id, count) => Schedule.addReady g.position? id count ready)
    ready).Pairwise (fun x y => x.1 < y.1)
  := by
  induction entries generalizing ready with
  | nil => apply h
  | cons entry entries ih => apply ih (Schedule.pairwise_addReady h)

/-- At the start nothing is listed, and every node awaits the sources of all edges into it. -/
theorem schedule_fits (g : Graph) :
  g.schedule.Fits g [] []
  := by
  have hwaiting : ∀ t, g.schedule.waiting.get? t =
      if t ∈ g.ids then some (g.awaited [] t) else none := by
    intro t
    apply @Dictionary.get?_ofList _ _ _ fun t =>
      if t ∈ g.ids then some (g.awaited [] t) else none
    rintro ⟨id, count⟩
    simp only [List.mem_map, Prod.mk.injEq, Option.ite_none_right_eq_some, Option.some.injEq]
    constructor
    · rintro ⟨_, hid, rfl, rfl⟩
      simp [awaited, List.countP_eq_length_filter, hid]
    · rintro ⟨hid, rfl⟩
      use id, hid, rfl
      simp [awaited, List.countP_eq_length_filter]
  constructor
  case waiting => simpa using hwaiting
  case ready =>
    intro place t
    have hmem : (place, t) ∈ g.schedule.ready ↔ (t, 0) ∈ g.schedule.waiting.entries
        ∧ g.position? t = some place ∨ (place, t) ∈ [] := mem_foldl_addReady (by simp)
    rw [hmem, Dictionary.mem_entries_iff, hwaiting]
    simp only [List.not_mem_nil, or_false, not_false_eq_true, true_and, List.count_nil,
      Nat.add_zero]
    constructor
    · rintro ⟨hcount, hplace⟩
      rw [if_pos (exists_position?.mp ⟨place, hplace⟩), Option.some.injEq] at hcount
      exact ⟨hplace, hcount⟩
    · rintro ⟨hplace, hcount⟩
      rw [if_pos (exists_position?.mp ⟨place, hplace⟩), hcount]
      exact ⟨rfl, hplace⟩
  case sorted => apply pairwise_foldl_addReady .nil
  case pending => simp

/-- Every node listed is new and comes after the sources of the edges into it. -/
theorem executionOrder_topological (g : Graph) :
  g.Topological [] g.executionOrder
  := (g.schedule_fits.list_spec (by simp)).1

/-- A node that is left out waits for a source that is left out. -/
theorem exists_source_not_mem_executionOrder {t : String} (hid : t ∈ g.ids)
    (hnot : t ∉ g.executionOrder) :
  ∃ s, g.Joins s t ∧ s ∉ g.executionOrder
  := (g.schedule_fits.list_spec (by simp)).2 t hid hnot

/-! ### Orders -/

namespace Topological

/-- Only nodes are listed. -/
theorem mem_ids {listed order : List String} (h : g.Topological listed order) {id : String}
    (hid : id ∈ order) :
  id ∈ g.ids
  := by
  induction order generalizing listed with
  | nil => cases hid
  | cons first order ih =>
    rcases List.mem_cons.mp hid with rfl | hid
    · apply h.1
    · apply ih h.2.2.2 hid

theorem not_mem_listed {listed order : List String} (h : g.Topological listed order)
    {id : String} (hid : id ∈ order) :
  id ∉ listed
  := by
  induction order generalizing listed with
  | nil => cases hid
  | cons first order ih =>
    rcases List.mem_cons.mp hid with rfl | hid
    · apply h.2.1
    · intro hmem
      apply ih h.2.2.2 hid (List.mem_append_left _ hmem)

/-- No node is listed twice. -/
theorem nodup {listed order : List String} (h : g.Topological listed order) :
  order.Nodup
  := by
  induction order generalizing listed with
  | nil => exact .nil
  | cons first order ih =>
    refine List.nodup_cons.mpr ⟨?_, ih h.2.2.2⟩
    intro hmem
    apply h.2.2.2.not_mem_listed hmem (by simp)

/-- In front of each node stand the sources of the edges into it. -/
theorem source_mem {listed front back : List String} {t : String}
    (h : g.Topological listed (front ++ t :: back)) {s : String} (hst : g.Joins s t) :
  s ∈ listed ++ front
  := by
  induction front generalizing listed with
  | nil =>
    rw [List.append_nil]
    apply h.2.2.1 s hst
  | cons first front ih =>
    have hmem := ih h.2.2.2
    rwa [List.append_assoc, List.singleton_append] at hmem

/-- Along an edge to a node that is listed the index grows. -/
theorem idxOf_lt {order : List String} (h : g.Topological [] order) {s t : String}
    (hst : g.Joins s t) (ht : t ∈ order) :
  s ∈ order ∧ order.idxOf s < order.idxOf t
  := by
  obtain ⟨front, back, rfl, hfirst⟩ := List.eq_append_cons_of_mem ht
  have hs : s ∈ front := h.source_mem hst
  constructor
  · apply List.mem_append_left _ hs
  · rw [List.idxOf_append_of_mem hs, List.idxOf_append_of_notMem hfirst, List.idxOf_cons_self,
      Nat.add_zero]
    apply List.idxOf_lt_length_of_mem hs

/-- Along a path to a node that is listed the index grows. -/
theorem idxOf_lt_of_reaches {order : List String} (h : g.Topological [] order) {s t : String}
    (hst : g.Reaches s t) (ht : t ∈ order) :
  order.idxOf s < order.idxOf t
  := by
  induction hst with
  | single hsu => apply (h.idxOf_lt hsu ht).2
  | tail _ hut ih =>
    obtain ⟨hu, hlt⟩ := h.idxOf_lt hut ht
    apply Nat.lt_trans (ih hu) hlt

end Topological

/-- What leads to a node that is listed is listed. -/
theorem mem_executionOrder_of_reaches {s t : String} (h : g.Reaches s t)
    (ht : t ∈ g.executionOrder) :
  s ∈ g.executionOrder
  := by
  induction h using Relation.TransGen.head_induction_on with
  | single hst => apply (g.executionOrder_topological.idxOf_lt hst ht).1
  | head hst _ ih => apply (g.executionOrder_topological.idxOf_lt hst ih).1

/-- No node that is listed lies on a cycle. -/
theorem not_reaches_self_of_mem_executionOrder {t : String} (ht : t ∈ g.executionOrder) :
  ¬ g.Reaches t t
  := by
  intro hcycle
  apply Nat.lt_irrefl _ (g.executionOrder_topological.idxOf_lt_of_reaches hcycle ht)

/-- A node is listed when all that leads to it are nodes on no cycle. -/
theorem mem_executionOrder_of_forall_reaches {t : String} (hid : t ∈ g.ids)
    (h : ∀ s, g.Reaches s t → s ∈ g.ids ∧ ¬ g.Reaches s s) :
  t ∈ g.executionOrder
  := by
  -- The nodes are finitely many, so that induction along paths from nodes on no cycle is sound.
  let before : {id // id ∈ g.ids} → {id // id ∈ g.ids} → Prop :=
    fun s t => g.Reaches s.1 t.1 ∧ ¬ g.Reaches s.1 s.1
  have : IsTrans _ before := ⟨fun _ _ _ hst htu => ⟨hst.1.trans htu.1, hst.2⟩⟩
  have : Std.Irrefl before := ⟨fun _ htt => htt.2 htt.1⟩
  have hwf : WellFounded before := Finite.wellFounded_of_trans_of_irrefl before
  have key : ∀ t : {id // id ∈ g.ids},
      (∀ s, g.Reaches s t.1 → s ∈ g.ids ∧ ¬ g.Reaches s s) → t.1 ∈ g.executionOrder := by
    intro t
    induction t using hwf.induction with
    | _ t ih =>
      intro hall
      by_contra hnot
      obtain ⟨s, hst, hs⟩ := exists_source_not_mem_executionOrder t.2 hnot
      obtain ⟨hsid, hself⟩ := hall s (.single hst)
      apply hs
      apply ih ⟨s, hsid⟩ ⟨.single hst, hself⟩
      intro u hu
      apply hall u (hu.tail hst)
  apply key ⟨t, hid⟩ h

/-- Where all edges leave nodes of the graph, the order lists every node exactly when no node
lies on a cycle. -/
theorem forall_mem_executionOrder_iff (hsource : ∀ s t, g.Joins s t → s ∈ g.ids) :
  (∀ id ∈ g.ids, id ∈ g.executionOrder) ↔ ∀ id ∈ g.ids, ¬ g.Reaches id id
  := by
  constructor
  · intro hall id hid
    apply not_reaches_self_of_mem_executionOrder (hall id hid)
  · intro hacyclic id hid
    apply mem_executionOrder_of_forall_reaches hid
    intro s hs
    obtain ⟨t, hst, -⟩ := Relation.TransGen.head'_iff.mp hs
    have hsid := hsource s t hst
    exact ⟨hsid, hacyclic s hsid⟩

/-- The order of an accepted graph lists every node. -/
theorem Accepted.mem_executionOrder (h : g.Accepted) {id : String} (hid : id ∈ g.ids) :
  id ∈ g.executionOrder
  := (forall_mem_executionOrder_iff h.source_mem).mpr h.acyclic id hid

/-- The order of an accepted graph lists every node exactly once. -/
theorem Accepted.executionOrder_perm (h : g.Accepted) :
  g.executionOrder.Perm g.ids
  := by
  apply (List.perm_ext_iff_of_nodup g.executionOrder_topological.nodup h.nodup_ids).mpr
  intro id
  exact ⟨g.executionOrder_topological.mem_ids, h.mem_executionOrder⟩

end Graph

end JobGraph
