import JobGraph.Proofs.Maps
import JobGraph.Template.Cache
import Mathlib.Data.Finset.Card

/-!
# What a cache of specs keeps

A request is answered from the cache, or else by the resolver, whose spec is then kept. So the
answer that a cache with a resolver behind it has for a key, `SpecCache.answer`, stays the same
while keys are resolved.

To see what a resolver is asked, requests are also made with resolvers that have effects:
`recorded` is a resolver that writes down its invocations. Over any sequence of calls, each with a
resolver of its own, the counters and the size of the cache are those of the calls, and the first
spec of a key is its answer from then on.
-/

namespace JobGraph

namespace SpecCache

variable {cache : SpecCache} {resolver : SpecKey → Except Error Spec} {key other : SpecKey}

/-! ### Requests -/

theorem getOrResolve_of_held {spec : Spec} (hkey : cache.get? key = some spec) :
  cache.getOrResolve key resolver = (.ok spec, ⟨cache.specs, cache.hits + 1, cache.misses⟩)
  := by
  unfold getOrResolve getOrResolveM
  rw [hkey]
  rfl

theorem getOrResolve_of_new {spec : Spec} (hkey : cache.get? key = none)
    (hresolver : resolver key = .ok spec) :
  cache.getOrResolve key resolver
    = (.ok spec, ⟨cache.specs.insert key spec, cache.hits, cache.misses + 1⟩)
  := by
  unfold getOrResolve getOrResolveM
  simp only [hkey, hresolver]
  rfl

theorem getOrResolve_of_rejected {e : Error} (hkey : cache.get? key = none)
    (hresolver : resolver key = .error e) :
  cache.getOrResolve key resolver = (.error e, ⟨cache.specs, cache.hits, cache.misses + 1⟩)
  := by
  unfold getOrResolve getOrResolveM
  simp only [hkey, hresolver]
  rfl

/-- A request is answered from the cache, by the resolver with a spec that is then kept, or by the
resolver with an error. -/
theorem getOrResolve_cases (cache : SpecCache) (key : SpecKey)
    (resolver : SpecKey → Except Error Spec) :
  (∃ spec, cache.get? key = some spec ∧ cache.getOrResolve key resolver
      = (.ok spec, ⟨cache.specs, cache.hits + 1, cache.misses⟩))
    ∨ (∃ spec, cache.get? key = none ∧ resolver key = .ok spec ∧ cache.getOrResolve key resolver
      = (.ok spec, ⟨cache.specs.insert key spec, cache.hits, cache.misses + 1⟩))
    ∨ ∃ e, cache.get? key = none ∧ resolver key = .error e ∧ cache.getOrResolve key resolver
      = (.error e, ⟨cache.specs, cache.hits, cache.misses + 1⟩)
  := by
  cases hkey : cache.get? key with
  | some spec =>
    left
    use spec, rfl, getOrResolve_of_held hkey
  | none =>
    right
    cases hresolver : resolver key with
    | ok spec =>
      left
      use spec, rfl, rfl, getOrResolve_of_new hkey hresolver
    | error e =>
      right
      use e, rfl, rfl, getOrResolve_of_rejected hkey hresolver

/-- After a request the cache holds what it held, and the spec that it was given for a key that it
did not hold. -/
theorem get?_getOrResolve {spec : Spec} :
  (cache.getOrResolve key resolver).2.get? other = some spec
    ↔ cache.get? other = some spec
      ∨ cache.get? other = none ∧ other = key ∧ resolver other = .ok spec
  := by
  obtain ⟨spec', hkey, heq⟩ | ⟨spec', hkey, hresolver, heq⟩ | ⟨e, hkey, hresolver, heq⟩ :=
    cache.getOrResolve_cases key resolver
  · rw [heq]
    constructor
    · exact .inl
    · rintro (hother | ⟨hother, rfl, -⟩)
      · apply hother
      · rw [hkey] at hother
        cases hother
  · rw [heq, get?, Dictionary.get?_insert]
    by_cases hother : key = other
    · subst hother
      simp [hkey, hresolver]
    · simp [hother, Ne.symm hother, get?]
  · rw [heq]
    constructor
    · exact .inl
    · rintro (hother | ⟨-, rfl, hspec⟩)
      · apply hother
      · rw [hresolver] at hspec
        cases hspec

/-- A request changes nothing under another key. -/
theorem get?_getOrResolve_of_ne (h : other ≠ key) :
  (cache.getOrResolve key resolver).2.get? other = cache.get? other
  := by
  apply Option.ext
  intro spec
  rw [get?_getOrResolve]
  simp [h]

/-! ### Answers -/

/-- What a cache with a resolver behind it has for a key. -/
def answer (cache : SpecCache) (resolver : SpecKey → Except Error Spec) (key : SpecKey) :
    Except Error Spec :=
  (cache.getOrResolve key resolver).1

/-- The answer is the spec kept, or else what the resolver says. -/
theorem answer_eq :
  cache.answer resolver key =
    match cache.get? key with
    | some spec => .ok spec
    | none => resolver key
  := by
  rw [answer]
  obtain ⟨spec, hkey, heq⟩ | ⟨spec, hkey, hresolver, heq⟩ | ⟨e, hkey, hresolver, heq⟩ :=
    cache.getOrResolve_cases key resolver
  · rw [heq, hkey]
  · rw [heq, hkey, hresolver]
  · rw [heq, hkey, hresolver]

theorem answer_empty :
  empty.answer resolver key = resolver key
  := answer_eq

/-- To resolve a key changes no answer. -/
theorem answer_getOrResolve :
  (cache.getOrResolve key resolver).2.answer resolver other = cache.answer resolver other
  := by
  rw [answer_eq, answer_eq]
  cases hother : cache.get? other with
  | some spec => rw [get?_getOrResolve.mpr (.inl hother)]
  | none =>
    cases hafter : (cache.getOrResolve key resolver).2.get? other with
    | none => rfl
    | some spec =>
      rw [get?_getOrResolve, hother] at hafter
      obtain h | ⟨-, -, hresolver⟩ := hafter
      · cases h
      · rw [hresolver]

/-- What the cache holds is what the resolver gives. -/
def Agrees (cache : SpecCache) (resolver : SpecKey → Except Error Spec) : Prop :=
  ∀ key spec, cache.get? key = some spec → resolver key = .ok spec

theorem empty_agrees (resolver : SpecKey → Except Error Spec) :
  empty.Agrees resolver
  := by
  intro key spec h
  cases h

theorem Agrees.answer_eq (h : cache.Agrees resolver) :
  cache.answer resolver = resolver
  := by
  funext key
  rw [SpecCache.answer_eq]
  cases hkey : cache.get? key with
  | some spec => rw [h key spec hkey]
  | none => rfl

theorem Agrees.getOrResolve (h : cache.Agrees resolver) (key : SpecKey) :
  (cache.getOrResolve key resolver).2.Agrees resolver
  := by
  intro other spec hother
  obtain hheld | ⟨-, -, hresolver⟩ := get?_getOrResolve.mp hother
  · apply h other spec hheld
  · apply hresolver

/-! ### Resolvers with effects -/

/-- An invocation of a resolver. -/
structure Invocation where
  key : SpecKey
  answer : Except Error Spec

/-- The resolver that writes down its invocations. -/
def recorded (resolver : SpecKey → Except Error Spec) (key : SpecKey) :
    StateM (List Invocation) (Except Error Spec) := do
  modify (· ++ [⟨key, resolver key⟩])
  return resolver key

/-- A request invokes the resolver when the cache does not hold the key. -/
theorem run_getOrResolveM_recorded {invocations : List Invocation} :
  (cache.getOrResolveM key (recorded resolver)).run invocations
    = (cache.getOrResolve key resolver,
      invocations ++ if (cache.get? key).isSome then [] else [⟨key, resolver key⟩])
  := by
  unfold getOrResolve getOrResolveM recorded
  cases cache.get? key with
  | some spec =>
    rw [Option.isSome_some, if_pos rfl, List.append_nil]
    rfl
  | none =>
    simp only
    cases resolver key with
    | ok spec => rfl
    | error e => rfl

/-! ### Calls one after the other -/

/-- A call of a cache, for a key and with a resolver of its own. -/
structure Call where
  key : SpecKey
  resolver : SpecKey → Except Error Spec

/-- What comes of a call. -/
structure Outcome where
  key : SpecKey
  /-- The invocations of its resolver. -/
  invocations : List Invocation
  result : Except Error Spec

/-- What comes of a call, and the cache after it. -/
def respond (cache : SpecCache) (call : Call) : Outcome × SpecCache :=
  let ((result, next), invocations) :=
    Id.run ((cache.getOrResolveM call.key (recorded call.resolver)).run [])
  (⟨call.key, invocations, result⟩, next)

/-- What comes of calls one after the other, and the cache after them. -/
def respondAll (cache : SpecCache) : List Call → List Outcome × SpecCache
  | [] => ([], cache)
  | call :: calls =>
    let (outcome, next) := cache.respond call
    let (outcomes, last) := next.respondAll calls
    (outcome :: outcomes, last)

variable {call : Call} {calls before after : List Call}

/-- A call is a request, which invokes the resolver when the cache does not hold the key. -/
theorem respond_eq :
  cache.respond call =
    (⟨call.key, if (cache.get? call.key).isSome then [] else [⟨call.key, call.resolver call.key⟩],
      (cache.getOrResolve call.key call.resolver).1⟩,
      (cache.getOrResolve call.key call.resolver).2)
  := by
  rw [respond, run_getOrResolveM_recorded]
  rfl

@[simp] theorem key_respond :
  (cache.respond call).1.key = call.key
  := by rw [respond_eq]

theorem respond_cases (cache : SpecCache) (call : Call) :
  (∃ spec, cache.get? call.key = some spec ∧ cache.respond call
      = (⟨call.key, [], .ok spec⟩, ⟨cache.specs, cache.hits + 1, cache.misses⟩))
    ∨ (∃ spec, cache.get? call.key = none ∧ cache.respond call
      = (⟨call.key, [⟨call.key, .ok spec⟩], .ok spec⟩,
        ⟨cache.specs.insert call.key spec, cache.hits, cache.misses + 1⟩))
    ∨ ∃ e, cache.get? call.key = none ∧ call.resolver call.key = .error e ∧ cache.respond call
      = (⟨call.key, [⟨call.key, .error e⟩], .error e⟩,
        ⟨cache.specs, cache.hits, cache.misses + 1⟩)
  := by
  rw [respond_eq]
  obtain ⟨spec, hkey, heq⟩ | ⟨spec, hkey, hresolver, heq⟩ | ⟨e, hkey, hresolver, heq⟩ :=
    cache.getOrResolve_cases call.key call.resolver
  · left
    use spec, hkey
    rw [heq, hkey]
    rfl
  · right
    left
    use spec, hkey
    rw [heq, hkey, hresolver]
    rfl
  · right
    right
    use e, hkey, hresolver
    rw [heq, hkey, hresolver]
    rfl

theorem respondAll_cons :
  cache.respondAll (call :: calls)
    = ((cache.respond call).1 :: ((cache.respond call).2.respondAll calls).1,
      ((cache.respond call).2.respondAll calls).2)
  := rfl

/-- What comes of further calls is what comes of them on the cache after the others. -/
theorem respondAll_append :
  cache.respondAll (before ++ after)
    = ((cache.respondAll before).1 ++ ((cache.respondAll before).2.respondAll after).1,
      ((cache.respondAll before).2.respondAll after).2)
  := by
  induction before generalizing cache with
  | nil => rfl
  | cons call before ih =>
    rw [List.cons_append, respondAll_cons, ih]
    rfl

/-! ### Counts -/

/-- Every call is a hit or a miss. -/
theorem hits_add_misses_respondAll :
  (cache.respondAll calls).2.hits + (cache.respondAll calls).2.misses
    = cache.hits + cache.misses + calls.length
  := by
  induction calls generalizing cache with
  | nil => rfl
  | cons call calls ih =>
    rw [respondAll_cons, ih, List.length_cons]
    obtain ⟨spec, -, heq⟩ | ⟨spec, -, heq⟩ | ⟨e, -, -, heq⟩ := cache.respond_cases call
    all_goals
      rw [heq]
      dsimp only
      omega

/-- A miss is an invocation of a resolver. -/
theorem misses_respondAll :
  (cache.respondAll calls).2.misses
    = cache.misses + ((cache.respondAll calls).1.flatMap Outcome.invocations).length
  := by
  induction calls generalizing cache with
  | nil => rfl
  | cons call calls ih =>
    rw [respondAll_cons, ih, List.flatMap_cons, List.length_append, ← Nat.add_assoc]
    obtain ⟨spec, -, heq⟩ | ⟨spec, -, heq⟩ | ⟨e, -, -, heq⟩ := cache.respond_cases call
    all_goals
      rw [heq]
      rfl

/-- The cache grows by one with every invocation that succeeds. -/
theorem size_respondAll :
  (cache.respondAll calls).2.size
    = cache.size
      + ((cache.respondAll calls).1.flatMap Outcome.invocations).countP (·.answer.isOk)
  := by
  induction calls generalizing cache with
  | nil => rfl
  | cons call calls ih =>
    rw [respondAll_cons, ih, List.flatMap_cons, List.countP_append, ← Nat.add_assoc]
    congr 1
    obtain ⟨spec, -, heq⟩ | ⟨spec, hkey, heq⟩ | ⟨e, -, -, heq⟩ := cache.respond_cases call
    · rw [heq]
      rfl
    · rw [heq]
      exact Dictionary.size_insert hkey
    · rw [heq]
      rfl

/-- After a call the cache holds what it held, and the key of the call if a spec was found. -/
theorem mem_keys_respond :
  key ∈ (cache.respond call).2.specs.keys
    ↔ key ∈ cache.specs.keys ∨ key = call.key ∧ (cache.respond call).1.result.isOk
  := by
  obtain ⟨spec, hkey, heq⟩ | ⟨spec, hkey, heq⟩ | ⟨e, -, -, heq⟩ := cache.respond_cases call
  · rw [heq]
    have hmem : call.key ∈ cache.specs.keys := Dictionary.mem_keys_iff.mpr ⟨spec, hkey⟩
    constructor
    · exact .inl
    · rintro (hheld | ⟨rfl, -⟩)
      · apply hheld
      · apply hmem
  · rw [heq, Dictionary.keys, Dictionary.insert, Dictionary.mem_map_put]
    simp only [Except.isOk, Except.toBool, and_true]
    rw [or_comm, Dictionary.keys]
  · rw [heq]
    simp [Except.isOk, Except.toBool]

/-- The cache holds the keys it held and those that a call found a spec for. -/
theorem mem_keys_respondAll :
  key ∈ (cache.respondAll calls).2.specs.keys
    ↔ key ∈ cache.specs.keys
      ∨ key ∈ ((cache.respondAll calls).1.filter (·.result.isOk)).map Outcome.key
  := by
  induction calls generalizing cache with
  | nil => simp [respondAll]
  | cons call calls ih =>
    rw [respondAll_cons, ih, mem_keys_respond, or_assoc, List.filter_cons]
    apply or_congr_right
    split
    case isTrue hok => rw [List.map_cons, List.mem_cons, key_respond, and_iff_left hok]
    case isFalse hok => simp only [hok, and_false, false_or, Bool.false_eq_true]

/-! ### The first spec of a key -/

/-- A call for a key that the cache holds is answered with what it holds. -/
theorem respond_of_held {spec : Spec} (h : cache.get? call.key = some spec) :
  (cache.respond call).1.result = .ok spec ∧ (cache.respond call).1.invocations = []
  := by
  have hanswer : cache.answer call.resolver call.key = .ok spec := by rw [answer_eq, h]
  rw [respond_eq, h]
  exact ⟨hanswer, rfl⟩

/-- Calls for a key that the cache holds are all answered with what it holds. -/
theorem respondAll_of_held {spec : Spec} (h : cache.get? key = some spec) :
  ∀ outcome ∈ (cache.respondAll calls).1, outcome.key = key →
    outcome.result = .ok spec ∧ outcome.invocations = []
  := by
  induction calls generalizing cache with
  | nil => simp [respondAll]
  | cons call calls ih =>
    rw [respondAll_cons, List.forall_mem_cons]
    constructor
    · rintro rfl
      apply respond_of_held h
    · apply ih
      rw [respond_eq]
      apply get?_getOrResolve.mpr (.inl h)

/-- When a call finds a spec, the cache holds it from then on. -/
theorem get?_of_respond {spec : Spec} (h : (cache.respond call).1.result = .ok spec) :
  (cache.respond call).2.get? call.key = some spec
  := by
  obtain ⟨spec', hkey, heq⟩ | ⟨spec', -, heq⟩ | ⟨e, -, -, heq⟩ := cache.respond_cases call
  · rw [heq] at h ⊢
    cases h
    apply hkey
  · rw [heq] at h ⊢
    cases h
    simp [get?]
  · rw [heq] at h
    cases h

/-- A call that fails has the error of its resolver and leaves the specs and the hits as they
were. -/
theorem respond_of_error {e : Error} (h : (cache.respond call).1.result = .error e) :
  (cache.respond call).1.invocations = [⟨call.key, .error e⟩]
    ∧ call.resolver call.key = .error e
    ∧ (cache.respond call).2.specs = cache.specs
    ∧ (cache.respond call).2.hits = cache.hits
  := by
  obtain ⟨spec, -, heq⟩ | ⟨spec, -, heq⟩ | ⟨e', -, hresolver, heq⟩ := cache.respond_cases call
  · rw [heq] at h
    cases h
  · rw [heq] at h
    cases h
  · rw [heq] at h ⊢
    cases h
    exact ⟨rfl, hresolver, rfl, rfl⟩

/-- From the first spec of a key on, every call for the key has this spec and invokes no
resolver. -/
theorem pairwise_respondAll :
  (cache.respondAll calls).1.Pairwise fun earlier later => later.key = earlier.key →
    ∀ spec, earlier.result = .ok spec → later.result = .ok spec ∧ later.invocations = []
  := by
  induction calls generalizing cache with
  | nil => exact .nil
  | cons call calls ih =>
    rw [respondAll_cons, List.pairwise_cons]
    constructor
    · intro later hlater hkey spec hspec
      rw [key_respond] at hkey
      apply respondAll_of_held (get?_of_respond hspec) later hlater hkey
    · apply ih

/-! ### Calls of a fresh cache -/

/-- What comes of calls of a fresh cache. -/
def outcomes (calls : List Call) : List Outcome :=
  (empty.respondAll calls).1

/-- The cache that was fresh before the calls. -/
def afterCalls (calls : List Call) : SpecCache :=
  (empty.respondAll calls).2

/-- The size of the cache is the number of different keys that a spec was found for. -/
theorem size_afterCalls (calls : List Call) :
  (afterCalls calls).size
    = (((outcomes calls).filter (·.result.isOk)).map Outcome.key).toFinset.card
  := by
  have hkeys : (afterCalls calls).specs.keys.toFinset
      = (((outcomes calls).filter (·.result.isOk)).map Outcome.key).toFinset := by
    ext key
    rw [List.mem_toFinset, List.mem_toFinset, afterCalls, mem_keys_respondAll]
    apply or_iff_right
    apply List.not_mem_nil
  rw [← hkeys, Dictionary.keys, List.toFinset_card_of_nodup (afterCalls calls).specs.distinct,
    List.length_map]
  rfl

theorem afterCalls_concat :
  afterCalls (before ++ [call]) = ((afterCalls before).respond call).2
  := by
  rw [afterCalls, respondAll_append]
  rfl

theorem length_respondAll :
  (cache.respondAll calls).1.length = calls.length
  := by
  induction calls generalizing cache with
  | nil => rfl
  | cons call calls ih => rw [respondAll_cons, List.length_cons, ih, List.length_cons]

theorem outcomes_append_cons :
  (outcomes (before ++ call :: after))[before.length]?
    = some ((afterCalls before).respond call).1
  := by
  rw [outcomes, respondAll_append, List.getElem?_append_right length_respondAll.le,
    length_respondAll, Nat.sub_self, respondAll_cons]
  rfl

/-- Over any calls of a fresh cache, each with a resolver of its own: every call is a hit or a miss,
every miss invokes the resolver, and the size is the number of different keys that a spec was found
for, and of the invocations that found one. From the first spec of a key on, every call for the key
has this spec and invokes no resolver. Each call is a request on the cache after those in front of
it. A call that fails has the error of the resolver and leaves the specs and the hits as they were,
and no call changes what is held under another key. -/
theorem outcomes_consistent (calls : List Call) :
  (afterCalls calls).hits + (afterCalls calls).misses = calls.length
    ∧ (afterCalls calls).misses = ((outcomes calls).flatMap Outcome.invocations).length
    ∧ (afterCalls calls).size
      = (((outcomes calls).filter (·.result.isOk)).map Outcome.key).toFinset.card
    ∧ (afterCalls calls).size
      = ((outcomes calls).flatMap Outcome.invocations).countP (·.answer.isOk)
    ∧ (outcomes calls).Pairwise (fun earlier later => later.key = earlier.key →
      ∀ spec, earlier.result = .ok spec → later.result = .ok spec ∧ later.invocations = [])
    ∧ ∀ before call after, calls = before ++ call :: after →
      ∃ outcome, (outcomes calls)[before.length]? = some outcome ∧ outcome.key = call.key
        ∧ (outcome.result, afterCalls (before ++ [call]))
          = (afterCalls before).getOrResolve call.key call.resolver
        ∧ (∀ e, outcome.result = .error e →
          outcome.invocations = [⟨call.key, .error e⟩] ∧ call.resolver call.key = .error e
            ∧ (afterCalls (before ++ [call])).specs = (afterCalls before).specs
            ∧ (afterCalls (before ++ [call])).hits = (afterCalls before).hits)
        ∧ ∀ other, other ≠ call.key →
          (afterCalls (before ++ [call])).get? other = (afterCalls before).get? other
  := by
  refine ⟨?_, ?_, size_afterCalls calls, ?_, pairwise_respondAll, ?_⟩
  · rw [afterCalls, hits_add_misses_respondAll]
    apply Nat.zero_add
  · rw [afterCalls, misses_respondAll]
    apply Nat.zero_add
  · rw [afterCalls, size_respondAll]
    apply Nat.zero_add
  · rintro before call after rfl
    use ((afterCalls before).respond call).1, outcomes_append_cons
    rw [afterCalls_concat]
    refine ⟨key_respond, ?_, ?_, ?_⟩
    · rw [respond_eq]
    · intro e he
      apply respond_of_error he
    · intro other hother
      rw [respond_eq]
      apply get?_getOrResolve_of_ne hother

/-- A key is asked for in vain and then again, then comes another key of the same written form, and
the first one once more with another resolver. -/
def retrial : List Call :=
  let key : SpecKey := ⟨"fit/base", "main"⟩
  let twin : SpecKey := ⟨"fit", "base/main"⟩
  [⟨key, fun _ => .error (.templateNotFound "fit/base")⟩,
    ⟨key, fun _ => .ok ⟨"fit/base", "main", [], [], ["model"]⟩⟩,
    ⟨twin, fun _ => .ok ⟨"fit", "base/main", [], [], []⟩⟩,
    ⟨key, fun _ => .ok ⟨"fit/base", "main", [], [], ["other"]⟩⟩]

/-- The last call has the first spec of its key, which the other key has not changed. -/
theorem retrial_consistent :
  (SpecKey.mk "fit/base" "main").text = (SpecKey.mk "fit" "base/main").text
    ∧ (afterCalls retrial).hits + (afterCalls retrial).misses = 4
    ∧ (afterCalls retrial).misses = 3
    ∧ (afterCalls retrial).size = 2
    ∧ (afterCalls (retrial.take 3)).get? ⟨"fit/base", "main"⟩
      = (afterCalls (retrial.take 2)).get? ⟨"fit/base", "main"⟩
    ∧ ∃ outcome, (outcomes retrial)[3]? = some outcome ∧ outcome.invocations = []
      ∧ outcome.result = .ok ⟨"fit/base", "main", [], [], ["model"]⟩
  := by
  obtain ⟨hcalls, hmisses, -, hsize, hfirst, hstep⟩ := outcomes_consistent retrial
  obtain ⟨-, -, -, -, -, hother⟩ := hstep (retrial.take 2) _ (retrial.drop 3) rfl
  refine ⟨by decide, hcalls, hmisses, hsize, hother ⟨"fit/base", "main"⟩ (by decide), ?_⟩
  have hlater := List.pairwise_iff_getElem.mp hfirst 1 3 (by decide) (by decide) (by decide) rfl
    ⟨"fit/base", "main", [], [], ["model"]⟩ rfl
  exact ⟨_, rfl, hlater.2, hlater.1⟩

end SpecCache

end JobGraph
