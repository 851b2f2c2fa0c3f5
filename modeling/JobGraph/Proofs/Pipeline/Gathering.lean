import JobGraph.Pipeline.Reply
import Mathlib.Data.List.Forall2
import Mathlib.Tactic.Use

/-!
# Calls together

Which of the calls that are asked for together are made, and their joint result. The calls
that are made stand first. When all succeed, all are made and their results come in order, and
there is no joint result otherwise; a joint error is that of a call. A failure at once behind
calls that succeed at once ends the asking, however many calls there are.
-/

namespace JobGraph.Reply

variable {α : Type} {call : String → Done α} {names : List String} {calls : List (Done α)}
  {ordered : Bool}

theorem Done.failedAtOnce_of_succeededAtOnce {d : Done α} (h : d.succeededAtOnce = true) :
  d.failedAtOnce = false
  := by
  unfold succeededAtOnce at h
  unfold failedAtOnce
  cases hresult : d.result with
  | ok a => rfl
  | error e =>
    rw [hresult] at h
    cases h

theorem Done.error?_eq_none_iff {d : Done α} :
  d.error? = none ↔ ∃ a, d.result = .ok a
  := by
  unfold error?
  cases d.result with
  | ok a => simp
  | error e => simp

/-! ### The calls that are made -/

theorem madeUntil_cases (ends : Done α → Bool) (calls : List (Done α)) :
  madeUntil ends calls = calls ∨ ∃ before d after, calls = before ++ d :: after
    ∧ madeUntil ends calls = before ++ [d] ∧ ends d = true
  := by
  induction calls with
  | nil =>
    left
    rfl
  | cons c calls ih =>
    rw [madeUntil]
    split
    case isTrue hends =>
      right
      use [], c, calls, rfl, rfl
    case isFalse =>
      obtain hall | ⟨before, d, after, hcalls, hmade, hends⟩ := ih
      · left
        rw [hall]
      · right
        use c :: before, d, after
        rw [hmade]
        refine ⟨?_, rfl, hends⟩
        rw [List.cons_append, ← hcalls]

/-- All calls are made, or those up to one that fails at once. -/
theorem made_cases (ordered : Bool) (calls : List (Done α)) :
  made ordered calls = calls ∨ ∃ before d after, calls = before ++ d :: after
    ∧ made ordered calls = before ++ [d] ∧ d.failedAtOnce = true
  := by
  cases ordered with
  | false => apply madeUntil_cases
  | true =>
    simp only [made, if_true]
    split
    case h_1 d rest hdrop =>
      split
      case isTrue hfailed =>
        right
        use calls.takeWhile Done.succeededAtOnce, d, rest
        refine ⟨?_, rfl, hfailed⟩
        rw [← hdrop]
        symm
        apply List.prefix_iff_eq_append.mp (List.takeWhile_prefix _)
      case isFalse =>
        left
        rfl
    case h_2 =>
      left
      rfl

/-- The calls that are made stand first. -/
theorem made_isPrefix (ordered : Bool) (calls : List (Done α)) :
  made ordered calls <+: calls
  := by
  obtain hall | ⟨before, d, after, hcalls, hmade, -⟩ := made_cases ordered calls
  · simp [hall]
  · rw [hmade]
    use after
    rw [hcalls, List.append_assoc, List.singleton_append]

/-- When none of the calls that are made fails at once, all are made. -/
theorem made_eq_self (h : ∀ d ∈ made ordered calls, d.failedAtOnce = false) :
  made ordered calls = calls
  := by
  obtain hall | ⟨before, d, after, -, hmade, hfailed⟩ := made_cases ordered calls
  · apply hall
  · rw [hmade] at h
    rw [h d (by simp)] at hfailed
    cases hfailed

theorem madeUntil_append {ends : Done α → Bool} {before after : List (Done α)} {d : Done α}
    (hbefore : ∀ b ∈ before, ends b = false) (hends : ends d = true) :
  madeUntil ends (before ++ d :: after) = before ++ [d]
  := by
  induction before with
  | nil => rw [List.nil_append, madeUntil, if_pos hends, List.nil_append]
  | cons b before ih =>
    rw [List.cons_append, madeUntil, hbefore b List.mem_cons_self,
      ih fun b hb => hbefore b (List.mem_cons_of_mem _ hb)]
    rfl

/-- A failure at once behind successes at once is the last call. -/
theorem made_append {before after : List (Done α)} {d : Done α}
    (hbefore : ∀ b ∈ before, b.succeededAtOnce = true) (hfailed : d.failedAtOnce = true) :
  made ordered (before ++ d :: after) = before ++ [d]
  := by
  cases ordered with
  | false =>
    apply madeUntil_append _ hfailed
    intro b hb
    apply Done.failedAtOnce_of_succeededAtOnce (hbefore b hb)
  | true =>
    have hd : ¬ d.succeededAtOnce = true := by
      intro hsucceeded
      rw [Done.failedAtOnce_of_succeededAtOnce hsucceeded] at hfailed
      cases hfailed
    have hprompt : (before ++ d :: after).takeWhile Done.succeededAtOnce = before := by
      rw [List.takeWhile_append_of_pos hbefore, List.takeWhile_cons_of_neg hd, List.append_nil]
    simp only [made, if_true, hprompt, List.drop_left, hfailed]

/-! ### Joint results -/

/-- Successes do not count for the first error. -/
theorem firstError_append {before calls : List (Done α)} (h : ∀ b ∈ before, b.error? = none) :
  firstError (before ++ calls) = firstError calls
  := by
  induction before with
  | nil => rfl
  | cons b before ih =>
    rw [List.cons_append, firstError, h b List.mem_cons_self,
      ih fun b hb => h b (List.mem_cons_of_mem _ hb)]

/-- The first error is that of a call. -/
theorem exists_of_firstError {time : Duration} {e : Error}
    (h : firstError calls = some (time, e)) :
  ∃ d ∈ calls, d.result = .error e
  := by
  have herror : ∀ d : Done α, ∀ e, d.error? = some e → d.result = .error e := by
    intro d e hd
    unfold Done.error? at hd
    split at hd
    case h_1 => cases hd
    case h_2 hresult =>
      cases hd
      apply hresult
  induction calls generalizing time e with
  | nil => cases h
  | cons d calls ih =>
    have hlater : ∀ time e, firstError calls = some (time, e) →
        ∃ d' ∈ d :: calls, d'.result = .error e := by
      intro time e hfirst
      obtain ⟨d', hd', hresult⟩ := ih hfirst
      use d', List.mem_cons_of_mem _ hd', hresult
    rw [firstError] at h
    split at h
    case h_1 => apply hlater _ _ h
    case h_2 hown _ =>
      cases h
      use d, List.mem_cons_self, herror d e hown
    case h_3 hown hfirst =>
      split at h
      · cases h
        use d, List.mem_cons_self, herror d e hown
      · cases h
        apply hlater _ _ hfirst

theorem forall₂_of_allResults {results : List α} (h : allResults calls = .ok results) :
  List.Forall₂ (fun d a => d.result = .ok a) calls results
  := by
  induction calls generalizing results with
  | nil =>
    cases h
    apply List.Forall₂.nil
  | cons d calls ih =>
    rw [allResults] at h
    split at h
    case h_1 hown hrest =>
      cases h
      constructor
      · apply hown
      · apply ih hrest
    case h_2 => cases h
    case h_3 => cases h

theorem exists_of_allResults {e : Error} (h : allResults calls = .error e) :
  ∃ d ∈ calls, d.result = .error e
  := by
  induction calls with
  | nil => cases h
  | cons d calls ih =>
    rw [allResults] at h
    split at h
    case h_1 => cases h
    case h_2 hrest =>
      cases h
      obtain ⟨d', hd', hresult⟩ := ih hrest
      use d', List.mem_cons_of_mem _ hd', hresult
    case h_3 hown =>
      cases h
      use d, List.mem_cons_self, hown

/-- Behind successes the failure of the last call is the joint result. -/
theorem allResults_append {before : List (Done α)} {d : Done α} {e : Error}
    (hbefore : ∀ b ∈ before, ∃ a, b.result = .ok a) (h : d.result = .error e) :
  allResults (before ++ [d]) = .error e
  := by
  induction before with
  | nil => rw [List.nil_append, allResults, h]
  | cons b before ih =>
    obtain ⟨a, ha⟩ := hbefore b List.mem_cons_self
    rw [List.cons_append, allResults, ha, ih fun b hb => hbefore b (List.mem_cons_of_mem _ hb)]

/-- There is a joint result only when all calls have one. -/
theorem forall₂_of_join {results : List α} (h : join ordered calls = .ok results) :
  List.Forall₂ (fun d a => d.result = .ok a) calls results
  := by
  unfold join at h
  split at h
  case h_1 => cases h
  case h_2 => apply forall₂_of_allResults h

/-- A joint error is that of a call. -/
theorem exists_of_join {e : Error} (h : join ordered calls = .error e) :
  ∃ d ∈ calls, d.result = .error e
  := by
  unfold join at h
  split at h
  case h_1 hfirst =>
    cases h
    apply exists_of_firstError hfirst
  case h_2 => apply exists_of_allResults h

theorem join_append {before : List (Done α)} {d : Done α} {e : Error}
    (hbefore : ∀ b ∈ before, ∃ a, b.result = .ok a) (h : d.result = .error e) :
  join ordered (before ++ [d]) = .error e
  := by
  have hfirst : firstError (before ++ [d]) = some (d.time, e) := by
    rw [firstError_append fun b hb => Done.error?_eq_none_iff.mpr (hbefore b hb), firstError,
      Done.error?, h]
    rfl
  unfold join
  cases ordered with
  | false => rw [hfirst]
  | true => apply allResults_append hbefore h

/-! ### Asking for names -/

/-- The names that are asked for stand first. -/
theorem gather_isPrefix (call : String → Done α) (names : List String) :
  (gather call names).1 <+: names
  := List.take_prefix _ _

theorem made_of_results {found : List α}
    (h : List.Forall₂ (fun d a => d.result = .ok a) (made ordered calls) found) :
  made ordered calls = calls
  := by
  apply made_eq_self
  have hnone : List.Forall₂ (fun d a => d.failedAtOnce = false ∧ d.result = .ok a)
      (made ordered calls) found := by
    apply h.imp
    intro d a ha
    rw [Done.failedAtOnce, ha]
    exact ⟨rfl, rfl⟩
  apply ((List.forall₂_and_left _ _).mp hnone).1

/-- There is a joint result only when all names have one. -/
theorem forall₂_of_gather {found : List α} (h : (gather call names).2 = .ok found) :
  List.Forall₂ (fun name a => (call name).result = .ok a) names found
  := by
  have hmade := forall₂_of_join h
  rw [made_of_results hmade, List.forall₂_map_left_iff] at hmade
  apply hmade

/-- A joint error is that of a name. -/
theorem exists_of_gather {e : Error} (h : (gather call names).2 = .error e) :
  ∃ name ∈ names, (call name).result = .error e
  := by
  obtain ⟨d, hd, hresult⟩ := exists_of_join h
  obtain ⟨name, hname, rfl⟩ := List.mem_map.mp ((made_isPrefix _ _).subset hd)
  use name, hname, hresult

/-- When all calls succeed, all are made and their results come in order. -/
theorem gather_eq {found : String → α} (h : ∀ name ∈ names, (call name).result = .ok (found name)) :
  gather call names = (names, .ok (names.map found))
  := by
  have hresult : (gather call names).2 = .ok (names.map found) := by
    cases hgather : (gather call names).2 with
    | error e =>
      obtain ⟨name, hname, he⟩ := exists_of_gather hgather
      rw [h name hname] at he
      cases he
    | ok results =>
      have hresults := (List.forall₂_and_left _ _).mpr ⟨h, forall₂_of_gather hgather⟩
      have heq : List.Forall₂ Eq (names.map found) results := by
        apply List.forall₂_map_left_iff.mpr
        apply hresults.imp
        rintro name a ⟨hfound, ha⟩
        rw [hfound] at ha
        apply Except.ok.inj ha
      rw [List.forall₂_eq_eq_eq] at heq
      rw [heq]
  have hasked : (gather call names).1 = names := by
    rw [gather, made_of_results (forall₂_of_join hresult), List.length_map, List.take_length]
  apply Prod.ext hasked hresult

/-- A name whose call fails at once, behind names whose calls succeed at once, is the last one
that is asked for, and its error is the joint result. -/
theorem gather_append {before after : List String} {name : String} {e : Error}
    (hbefore : ∀ b ∈ before, ∃ a, call b = ⟨.zero, .ok a⟩) (h : call name = ⟨.zero, .error e⟩) :
  gather call (before ++ name :: after) = (before ++ [name], .error e)
  := by
  have hmade : ∀ ordered, made ordered ((before ++ name :: after).map call)
      = before.map call ++ [call name] := by
    intro ordered
    rw [List.map_append, List.map_cons]
    apply made_append
    · intro d hd
      obtain ⟨b, hb, rfl⟩ := List.mem_map.mp hd
      obtain ⟨a, ha⟩ := hbefore b hb
      rw [ha]
      rfl
    · rw [h]
      rfl
  have hjoin : ∀ ordered, join ordered (before.map call ++ [call name]) = .error e := by
    intro ordered
    apply join_append
    · intro d hd
      obtain ⟨b, hb, rfl⟩ := List.mem_map.mp hd
      obtain ⟨a, ha⟩ := hbefore b hb
      use a
      rw [ha]
    · rw [h]
  have hasked : (before ++ name :: after).take (before.map call ++ [call name]).length
      = before ++ [name] := by
    have hlength : (before.map call ++ [call name]).length = (before ++ [name]).length := by simp
    have hsplit : before ++ name :: after = (before ++ [name]) ++ after := by simp
    rw [hlength, hsplit, List.take_left]
  rw [gather, hmade, hjoin, hasked]

end JobGraph.Reply
