import JobGraph.Proofs.Graph.Order
import Mathlib

/-!
# The steps in which nodes are listed

The order of execution of any graph is made in steps: the first ready node is listed, and then its
targets are released one after the other. `Listing.Fits` is what the steps keep, so that no target
is released more often than edges from nodes not yet listed lead to it. The nodes listed are the
least set that has every node whose sources it has, and what they leave out is what lies on a
cycle, or behind a cycle or an unknown node.
-/

namespace JobGraph

/-- A listing under way. -/
structure Listing where
  /-- The nodes listed so far. -/
  order : List String
  /-- The targets of the last of them that are still to be released. -/
  pending : List String
  schedule : Schedule

namespace Listing

/-- The listing of a graph before its first step. -/
def start (g : Graph) : Listing :=
  ⟨[], [], g.schedule⟩

/-- One step of a listing: the next of the pending targets is released, or else the first ready
node is listed. -/
def step (g : Graph) (l : Listing) : Option Listing :=
  match l.pending with
  | target :: pending => some ⟨l.order, pending, l.schedule.release g.position? target⟩
  | [] =>
    match l.schedule.ready with
    | (_, id) :: ready => some ⟨l.order ++ [id], g.targets id, ⟨l.schedule.waiting, ready⟩⟩
    | [] => none

/-- One listing leads to another one in some steps. -/
def LeadsTo (g : Graph) : Listing → Listing → Prop :=
  Relation.ReflTransGen fun l l' => l.step g = some l'

variable {g : Graph} {l l' : Listing}

/-- A step releases a target, or lists a node when none is pending. -/
theorem step_cases (h : l.step g = some l') :
  (∃ target pending, l.pending = target :: pending
      ∧ l' = ⟨l.order, pending, l.schedule.release g.position? target⟩)
    ∨ l.pending = [] ∧ ∃ place id ready, l.schedule.ready = (place, id) :: ready
      ∧ l' = ⟨l.order ++ [id], g.targets id, ⟨l.schedule.waiting, ready⟩⟩
  := by
  unfold step at h
  split at h
  case h_1 target pending hpending =>
    cases h
    exact .inl ⟨target, pending, hpending, rfl⟩
  case h_2 hpending =>
    split at h
    case h_1 place id ready hready =>
      cases h
      exact .inr ⟨hpending, place, id, ready, hready, rfl⟩
    case h_2 => cases h

/-! ### The end of the steps -/

/-- Either less is left to count down and to list, or as much and fewer targets are pending. -/
theorem step_decreases (h : l.step g = some l') :
  Prod.Lex (· < ·) (· < ·) (l'.schedule.remaining, l'.pending.length)
    (l.schedule.remaining, l.pending.length)
  := by
  rw [Prod.lex_def]
  rcases step_cases h with ⟨target, pending, hpending, rfl⟩ | ⟨-, place, id, ready, hready, rfl⟩
  · have hle := @Schedule.remaining_release_le g.position? l.schedule target
    rw [hpending, List.length_cons]
    dsimp only
    omega
  · left
    simp [Schedule.remaining, hready]

/-- The steps of a listing lead to its end. -/
theorem wellFounded_step (g : Graph) :
  WellFounded fun l' l : Listing => l.step g = some l'
  := by
  apply Subrelation.wf step_decreases
  apply InvImage.wf fun l : Listing => (l.schedule.remaining, l.pending.length)
  apply (Prod.lex Nat.lt_wfRel Nat.lt_wfRel).wf

/-- No listing goes on forever. -/
theorem exists_step_ne_some (g : Graph) (listings : Nat → Listing) :
  ∃ i, (listings i).step g ≠ some (listings (i + 1))
  := @WellFounded.not_rel_apply_succ _ _ ⟨wellFounded_step g⟩ listings

/-- The pending targets are released one after the other. -/
theorem leadsTo_foldl_release {order pending : List String} {s : Schedule} :
  LeadsTo g ⟨order, pending, s⟩ ⟨order, [], pending.foldl (Schedule.release g.position?) s⟩
  := by
  induction pending generalizing s with
  | nil => apply Relation.ReflTransGen.refl
  | cons target pending ih =>
    apply Relation.ReflTransGen.head _ ih
    rfl

/-- The steps come to an end where all is listed that the schedule lists. -/
theorem exists_end (order : List String) (s : Schedule) :
  ∃ l, LeadsTo g ⟨order, [], s⟩ l ∧ l.step g = none
    ∧ l.order = order ++ s.list g.position? g.targets
  := by
  induction s using Schedule.list.induct g.position? g.targets generalizing order with
  | case1 s hready =>
    use ⟨order, [], s⟩
    refine ⟨.refl, ?_, ?_⟩
    · simp only [step, hready]
    · rw [Schedule.list_of_ready_nil hready, List.append_nil]
  | case2 s place id ready hready ih =>
    obtain ⟨l, hlead, hend, horder⟩ := ih (order ++ [id])
    use l
    refine ⟨?_, hend, ?_⟩
    · apply Relation.ReflTransGen.head _ (leadsTo_foldl_release.trans hlead)
      simp only [step, hready]
    · rw [horder, Schedule.list_of_ready_cons hready, List.append_assoc, List.singleton_append]

/-! ### What the steps keep -/

/-- What holds of a listing of the graph. -/
structure Fits (g : Graph) (l : Listing) : Prop where
  schedule : l.schedule.Fits g l.order l.pending
  closed : ∀ t ∈ l.order, g.awaited l.order t = 0

theorem start_fits (g : Graph) :
  Fits g (start g)
  := by
  constructor
  case schedule => apply g.schedule_fits
  case closed => simp [start]

theorem Fits.step (h : Fits g l) (hstep : l.step g = some l') :
  Fits g l'
  := by
  obtain ⟨hs, hclosed⟩ := h
  rcases step_cases hstep with
    ⟨target, pending, hpending, rfl⟩ | ⟨hpending, place, id, ready, hready, rfl⟩
  · rw [hpending] at hs
    exact ⟨hs.release, hclosed⟩
  · rw [hpending] at hs
    obtain ⟨-, hnew, hzero, hpop⟩ := hs.pop hclosed hready
    exact ⟨hpop, Graph.awaited_concat_eq_zero hnew hzero hclosed⟩

theorem Fits.leadsTo (h : Fits g l) (hlead : LeadsTo g l l') :
  Fits g l'
  := by
  induction hlead with
  | refl => apply h
  | tail _ hstep ih => apply ih.step hstep

/-- A target that is released was counted, and it has a position. -/
theorem Fits.released (h : Fits g l) {target : String} {pending : List String}
    (hpending : l.pending = target :: pending) :
  (∃ left, l.schedule.waiting.get? target = some (left + 1))
    ∧ ∃ place, g.position? target = some place
  := by
  have hs := h.schedule
  rw [hpending] at hs
  obtain ⟨hid, -⟩ := hs.pending target List.mem_cons_self
  constructor
  · rw [hs.waiting target, if_pos hid, List.count_cons_self, ← Nat.add_assoc]
    use g.awaited l.order target + pending.count target
  · apply Graph.exists_position?.mpr hid

end Listing

/-! ### What is listed and what is left out -/

namespace Graph

variable {g : Graph}

/-- A set of names has every node whose sources it has. -/
def Closed (g : Graph) (S : Set String) : Prop :=
  ∀ id ∈ g.ids, (∀ s, g.Joins s id → s ∈ S) → id ∈ S

theorem exists_position?_of_mem_schedule {id : String} {count : Nat}
    (h : (id, count) ∈ g.schedule.waiting.entries) :
  ∃ place, g.position? id = some place
  := by
  rw [Dictionary.mem_entries_iff, g.schedule_fits.waiting, Option.ite_none_right_eq_some] at h
  apply exists_position?.mpr h.1

theorem closed_executionOrder (g : Graph) :
  g.Closed {id | id ∈ g.executionOrder}
  := by
  intro id hid hsources
  by_contra hnot
  obtain ⟨s, hs, hleft⟩ := exists_source_not_mem_executionOrder hid hnot
  apply hleft (hsources s hs)

/-- A closed set that has the nodes listed has those that are listed after them. -/
theorem Topological.subset_closed {S : Set String} (hS : g.Closed S) {listed order : List String}
    (h : g.Topological listed order) (hlisted : ∀ t ∈ listed, t ∈ S) :
  ∀ t ∈ order, t ∈ S
  := by
  induction order generalizing listed with
  | nil => simp
  | cons id order ih =>
    obtain ⟨hid, -, hsources, hrest⟩ := h
    have hmem : id ∈ S := hS id hid fun s hs => hlisted s (hsources s hs)
    rw [List.forall_mem_cons]
    refine ⟨hmem, ih hrest ?_⟩
    intro t ht
    rcases List.mem_append.mp ht with ht | ht
    · apply hlisted t ht
    · rw [List.mem_singleton.mp ht]
      apply hmem

theorem isLeast_executionOrder (g : Graph) :
  IsLeast {S | g.Closed S} {id | id ∈ g.executionOrder}
  := by
  constructor
  · apply g.closed_executionOrder
  · intro S hS
    apply g.executionOrder_topological.subset_closed hS (List.forall_mem_nil _)

/-- A node is left out when it lies on a cycle, or behind a cycle or an unknown node, and only
then. -/
theorem not_mem_executionOrder_iff {t : String} (hid : t ∈ g.ids) :
  t ∉ g.executionOrder
    ↔ g.Reaches t t ∨ (∃ c, g.Reaches c c ∧ g.Reaches c t) ∨ ∃ u, u ∉ g.ids ∧ g.Reaches u t
  := by
  constructor
  · intro hleft
    by_contra hnone
    push Not at hnone
    obtain ⟨-, hcycle, hunknown⟩ := hnone
    apply hleft (mem_executionOrder_of_forall_reaches hid _)
    intro s hs
    constructor
    · by_contra hs'
      apply hunknown s hs' hs
    · intro hself
      apply hcycle s hself hs
  · rintro (ht | ⟨c, hc, hct⟩ | ⟨u, hu, hut⟩) hmem
    · apply not_reaches_self_of_mem_executionOrder hmem ht
    · apply not_reaches_self_of_mem_executionOrder (mem_executionOrder_of_reaches hct hmem) hc
    · apply hu
      apply g.executionOrder_topological.mem_ids (mem_executionOrder_of_reaches hut hmem)

/-- Whatever the graph, the steps of its listing end with the order of execution, every node that
waits has a position, and a target that is released was counted and has a position. No node is
listed twice, the nodes listed are the least set that has every node whose sources it has, and the
nodes left out are those on a cycle, behind a cycle or behind an unknown node. -/
theorem executionOrder_isLeast_closed (g : Graph) :
  (∀ listings : Nat → Listing, ∃ i, (listings i).step g ≠ some (listings (i + 1)))
    ∧ (∃ l, (Listing.start g).LeadsTo g l ∧ l.step g = none ∧ l.order = g.executionOrder)
    ∧ (∀ entry ∈ g.schedule.waiting.entries, ∃ place, g.position? entry.1 = some place)
    ∧ (∀ l target pending, (Listing.start g).LeadsTo g l → l.pending = target :: pending →
      (∃ left, l.schedule.waiting.get? target = some (left + 1))
        ∧ ∃ place, g.position? target = some place)
    ∧ g.executionOrder.Nodup
    ∧ IsLeast {S | g.Closed S} {id | id ∈ g.executionOrder}
    ∧ ∀ id ∈ g.ids, id ∉ g.executionOrder
      ↔ g.Reaches id id ∨ (∃ c, g.Reaches c c ∧ g.Reaches c id)
        ∨ ∃ u, u ∉ g.ids ∧ g.Reaches u id
  := by
  refine ⟨?_, ?_, ?_, ?_, ?_, ?_, ?_⟩
  · apply Listing.exists_step_ne_some
  · apply Listing.exists_end [] g.schedule
  · rintro ⟨id, count⟩ hmem
    apply exists_position?_of_mem_schedule hmem
  · intro l target pending hlead hpending
    apply ((Listing.start_fits g).leadsTo hlead).released hpending
  · apply g.executionOrder_topological.nodup
  · apply isLeast_executionOrder
  · intro id hid
    apply not_mem_executionOrder_iff hid

/-- A node that stands there twice, an edge drawn twice, one to an unknown node, a node behind
itself and one behind that, and a node behind an unknown one. -/
def tangle : Graph where
  nodes := [⟨"fit", "make", "main", .empty⟩, ⟨"use", "take", "main", .empty⟩,
    ⟨"fit", "make", "main", .empty⟩, ⟨"spin", "idle", "main", .empty⟩,
    ⟨"after", "idle", "main", .empty⟩, ⟨"lost", "idle", "main", .empty⟩]
  edges := [⟨"fit", "use"⟩, ⟨"fit", "use"⟩, ⟨"use", "nowhere"⟩, ⟨"spin", "spin"⟩,
    ⟨"spin", "after"⟩, ⟨"ghost", "lost"⟩]

/-- The first two nodes are listed, and the other three are left out. -/
theorem tangle_leaves_out :
  tangle.executionOrder = ["fit", "use"]
    ∧ "spin" ∉ tangle.executionOrder ∧ "after" ∉ tangle.executionOrder
    ∧ "lost" ∉ tangle.executionOrder
  := by
  have hspin : tangle.Reaches "spin" "spin" := .single (by simp [Joins, tangle])
  have hafter : tangle.Reaches "spin" "after" := .single (by simp [Joins, tangle])
  have hlost : tangle.Reaches "ghost" "lost" := .single (by simp [Joins, tangle])
  obtain ⟨-, -, -, -, -, -, hleft⟩ := executionOrder_isLeast_closed tangle
  refine ⟨by cbv, ?_, ?_, ?_⟩
  · apply (hleft "spin" (by decide)).mpr
    exact .inl hspin
  · apply (hleft "after" (by decide)).mpr
    exact .inr (.inl ⟨"spin", hspin, hafter⟩)
  · apply (hleft "lost" (by decide)).mpr
    exact .inr (.inr ⟨"ghost", by decide, hlost⟩)

end Graph

end JobGraph
