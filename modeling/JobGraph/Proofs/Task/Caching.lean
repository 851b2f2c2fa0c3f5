import JobGraph.Proofs.Task.Compilation

/-!
# Compilation asks for each spec once

A graph is compiled with a cache to what it would be compiled to if the resolver were asked for
every node. It is asked for the keys that the cache does not hold, where they are first used, up to
the first one that it rejects; the other nodes are answered from the cache. What is asked shows in
the compilation with a resolver that has effects.
-/

namespace JobGraph

/-! ### First uses of keys -/

namespace SpecCache

variable {cache next : SpecCache} {resolver : SpecKey → Except Error Spec} {key : SpecKey}
  {keys : List SpecKey} {spec : Spec} {e : Error}

/-- Whether the resolver has no spec for the key. -/
def rejects (resolver : SpecKey → Except Error Spec) (key : SpecKey) : Bool :=
  !(resolver key).isOk

theorem rejects_of_error (h : resolver key = .error e) :
  rejects resolver key = true
  := by
  rw [rejects, h]
  rfl

theorem not_rejects_of_ok (h : resolver key = .ok spec) :
  rejects resolver key = false
  := by
  rw [rejects, h]
  rfl

theorem contains_of_get? (h : cache.get? key = some spec) :
  cache.specs.contains key = true
  := Option.isSome_of_eq_some h

theorem not_contains_of_get? (h : cache.get? key = none) :
  cache.specs.contains key = false
  := by
  rw [Dictionary.contains, ← get?, h, Option.isSome_none]

/-- The keys that the cache does not hold, each where it stands first. -/
def newKeys (cache : SpecCache) (keys : List SpecKey) : List SpecKey :=
  (keys.filter fun key => !cache.specs.contains key).eraseDups

/-- Of the new keys those up to the first one that the resolver rejects. -/
def askedKeys (cache : SpecCache) (resolver : SpecKey → Except Error Spec)
    (keys : List SpecKey) : List SpecKey :=
  (cache.newKeys keys).take ((cache.newKeys keys).findIdx (rejects resolver) + 1)

/-- Whether the key at a place is known there: the cache holds it, or it stands further in
front, too. -/
def knownAt (cache : SpecCache) (keys : List SpecKey) (i : Nat) : Bool :=
  keys[i]?.any fun key => cache.specs.contains key || (keys.take i).contains key

/-- The number of known keys in front of the first one that the resolver rejects. -/
def knownCount (cache : SpecCache) (resolver : SpecKey → Except Error Spec)
    (keys : List SpecKey) : Nat :=
  (List.range (keys.findIdx (rejects resolver))).countP (cache.knownAt keys)

/-- The next cache holds one more key. -/
def Extends (next cache : SpecCache) (key : SpecKey) : Prop :=
  ∀ other, next.specs.contains other = (cache.specs.contains other || other == key)

theorem extends_of_held {hits misses : Nat} (hheld : cache.specs.contains key = true) :
  Extends ⟨cache.specs, hits, misses⟩ cache key
  := by
  intro other
  by_cases hother : other = key
  · simp [hother, hheld]
  · simp [hother]

theorem extends_insert {hits misses : Nat} :
  Extends ⟨cache.specs.insert key spec, hits, misses⟩ cache key
  := by
  intro other
  rw [Dictionary.contains, Dictionary.get?_insert, Dictionary.contains]
  by_cases hother : key = other
  · simp [hother]
  · simp [hother, Ne.symm hother]

theorem newKeys_cons_of_held (hheld : cache.specs.contains key = true)
    (hnext : next.Extends cache key) :
  cache.newKeys (key :: keys) = next.newKeys keys
  := by
  rw [newKeys, List.filter_cons_of_neg (by simp [hheld]), newKeys]
  congr 1
  apply List.filter_congr
  intro other _
  rw [hnext]
  by_cases hother : other = key
  · simp [hother, hheld]
  · simp [hother]

theorem newKeys_cons_of_new (hnew : cache.specs.contains key = false)
    (hnext : next.Extends cache key) :
  cache.newKeys (key :: keys) = key :: next.newKeys keys
  := by
  rw [newKeys, List.filter_cons_of_pos (by simp [hnew]), List.eraseDups_cons, List.filter_filter,
    newKeys]
  congr 2
  apply List.filter_congr
  intro other _
  rw [hnext, Bool.not_or, Bool.and_comm]

theorem askedKeys_cons_of_held (hheld : cache.specs.contains key = true)
    (hnext : next.Extends cache key) :
  cache.askedKeys resolver (key :: keys) = next.askedKeys resolver keys
  := by
  rw [askedKeys, newKeys_cons_of_held hheld hnext, askedKeys]

theorem askedKeys_cons_of_new (hnew : cache.specs.contains key = false)
    (hnext : next.Extends cache key) (haccepts : rejects resolver key = false) :
  cache.askedKeys resolver (key :: keys) = key :: next.askedKeys resolver keys
  := by
  rw [askedKeys, newKeys_cons_of_new hnew hnext, List.findIdx_cons, haccepts, askedKeys]
  rfl

/-- Behind a rejected key nothing is asked for. -/
theorem askedKeys_cons_of_rejected (hnew : cache.specs.contains key = false)
    (hrejects : rejects resolver key = true) :
  cache.askedKeys resolver (key :: keys) = [key]
  := by
  rw [askedKeys, newKeys, List.filter_cons_of_pos (by simp [hnew]), List.eraseDups_cons,
    List.findIdx_cons, hrejects]
  rfl

theorem knownCount_cons_of_rejected (hrejects : rejects resolver key = true) :
  cache.knownCount resolver (key :: keys) = 0
  := by
  rw [knownCount, List.findIdx_cons, hrejects]
  rfl

theorem knownAt_succ (hnext : next.Extends cache key) {i : Nat} :
  cache.knownAt (key :: keys) (i + 1) = next.knownAt keys i
  := by
  rw [knownAt, knownAt, List.getElem?_cons_succ]
  congr 1
  funext other
  rw [hnext, List.take_succ_cons, List.contains_cons, Bool.or_assoc]

theorem knownCount_cons (hnext : next.Extends cache key)
    (haccepts : rejects resolver key = false) :
  cache.knownCount resolver (key :: keys)
    = (if cache.specs.contains key then 1 else 0) + next.knownCount resolver keys
  := by
  have hfirst : cache.knownAt (key :: keys) 0 = cache.specs.contains key := by simp [knownAt]
  rw [knownCount, List.findIdx_cons, haccepts, cond_false, List.range_succ_eq_map,
    List.countP_cons, List.countP_map, hfirst, Nat.add_comm, knownCount]
  congr 1
  apply List.countP_congr
  intro i _
  rw [Function.comp_apply, knownAt_succ hnext]

/-- What is asked for shows in the cache that comes last: it holds the specs of the keys asked for,
and the counters have grown by the keys that were known and by those that were asked for. -/
structure Accounts (cache last : SpecCache) (resolver : SpecKey → Except Error Spec)
    (keys : List SpecKey) : Prop where
  held : ∀ key spec, last.get? key = some spec
    ↔ cache.get? key = some spec
      ∨ key ∈ cache.askedKeys resolver keys ∧ resolver key = .ok spec
  hits : last.hits = cache.hits + cache.knownCount resolver keys
  misses : last.misses = cache.misses + (cache.askedKeys resolver keys).length

theorem accounts_nil :
  Accounts cache cache resolver []
  := by
  constructor
  case held => simp [askedKeys, newKeys]
  case hits => rfl
  case misses => rfl

theorem Accounts.cons_of_held {last : SpecCache} (hkey : cache.get? key = some spec)
    (hresolver : resolver key = .ok spec)
    (h : Accounts ⟨cache.specs, cache.hits + 1, cache.misses⟩ last resolver keys) :
  Accounts cache last resolver (key :: keys)
  := by
  have hheld := contains_of_get? hkey
  have hnext := @extends_of_held cache key (cache.hits + 1) cache.misses hheld
  constructor
  case held =>
    intro other spec'
    rw [h.held, askedKeys_cons_of_held hheld hnext]
    rfl
  case hits =>
    rw [h.hits, knownCount_cons hnext (not_rejects_of_ok hresolver), if_pos hheld, Nat.add_assoc]
  case misses => rw [h.misses, askedKeys_cons_of_held hheld hnext]

theorem Accounts.cons_of_new {last : SpecCache} (hkey : cache.get? key = none)
    (hresolver : resolver key = .ok spec)
    (h : Accounts ⟨cache.specs.insert key spec, cache.hits, cache.misses + 1⟩ last resolver keys) :
  Accounts cache last resolver (key :: keys)
  := by
  have hnew := not_contains_of_get? hkey
  have haccepts := not_rejects_of_ok hresolver
  have hnext := @extends_insert cache key spec cache.hits (cache.misses + 1)
  constructor
  case held =>
    intro other spec'
    rw [h.held, askedKeys_cons_of_new hnew hnext haccepts, get?, Dictionary.get?_insert,
      List.mem_cons]
    by_cases hother : key = other
    · subst hother
      simp [hkey, hresolver]
    · simp [hother, Ne.symm hother, get?]
  case hits =>
    rw [h.hits, knownCount_cons hnext haccepts, hnew, if_neg Bool.false_ne_true, Nat.zero_add]
  case misses =>
    rw [h.misses, askedKeys_cons_of_new hnew hnext haccepts, List.length_cons]
    dsimp only
    omega

theorem accounts_of_rejected (hkey : cache.get? key = none) (hresolver : resolver key = .error e) :
  Accounts cache ⟨cache.specs, cache.hits, cache.misses + 1⟩ resolver (key :: keys)
  := by
  have hnew := not_contains_of_get? hkey
  have hrejects := rejects_of_error hresolver
  constructor
  case held =>
    intro other spec'
    rw [askedKeys_cons_of_rejected hnew hrejects, List.mem_singleton]
    constructor
    · exact .inl
    · rintro (hheld | ⟨rfl, hspec⟩)
      · apply hheld
      · rw [hresolver] at hspec
        cases hspec
  case hits =>
    rw [knownCount_cons_of_rejected hrejects]
    rfl
  case misses => rw [askedKeys_cons_of_rejected hnew hrejects, List.length_singleton]

end SpecCache

namespace Graph

variable {g : Graph} {cache : SpecCache} {resolver : SpecKey → Except Error Spec}

/-! ### Compilation without a cache -/

/-- The tasks of nodes behind those compiled already, where the resolver is asked for every
node. -/
def compileNodesAfresh (resolver : SpecKey → Except Error Spec) (c : CompiledGraph) :
    List Node → Except Error CompiledGraph
  | [] => .ok c
  | node :: nodes =>
    match resolver node.specKey with
    | .ok spec => compileNodesAfresh resolver (c.addTask node spec) nodes
    | .error e => .error e

/-- Compile a graph without a cache. -/
def compileAfresh (g : Graph) (resolver : SpecKey → Except Error Spec) :
    Except Error CompiledGraph :=
  g.connect (compileNodesAfresh resolver ⟨[], .empty⟩ g.nodes)

/-- With a cache nodes are compiled to what they are compiled to with its answers. -/
theorem compileNodes_eq_afresh {c : CompiledGraph} {nodes : List Node} :
  (compileNodes resolver c cache nodes).1
    = compileNodesAfresh (cache.answer resolver) c nodes
  := by
  induction nodes generalizing c cache with
  | nil => rfl
  | cons node nodes ih =>
    rw [compileNodesAfresh]
    cases hanswer : cache.answer resolver node.specKey with
    | error e => rw [compileNodes_cons_of_error hanswer]
    | ok spec =>
      have hsame : (cache.getOrResolve node.specKey resolver).2.answer resolver
          = cache.answer resolver := funext fun _ => SpecCache.answer_getOrResolve
      rw [compileNodes_cons_of_ok hanswer, ih, hsame]

theorem compile_eq_afresh :
  (g.compile cache resolver).1 = g.compileAfresh (cache.answer resolver)
  := by
  rw [compile_eq_connect, compileNodes_eq_afresh, compileAfresh]

/-! ### What is asked for -/

/-- Nodes that are compiled with a cache that agrees with the resolver account for their keys. -/
theorem accounts_compileNodes (h : cache.Agrees resolver) {c : CompiledGraph}
    {nodes : List Node} :
  SpecCache.Accounts cache (compileNodes resolver c cache nodes).2 resolver
    (nodes.map Node.specKey)
  := by
  induction nodes generalizing c cache with
  | nil => apply SpecCache.accounts_nil
  | cons node nodes ih =>
    have hagrees := h.getOrResolve node.specKey
    rw [List.map_cons, compileNodes_cons]
    obtain ⟨spec, hkey, heq⟩ | ⟨spec, hkey, hresolver, heq⟩ | ⟨e, hkey, hresolver, heq⟩ :=
      cache.getOrResolve_cases node.specKey resolver
    · rw [heq] at hagrees ⊢
      apply SpecCache.Accounts.cons_of_held hkey (h _ spec hkey) (ih hagrees)
    · rw [heq] at hagrees ⊢
      apply SpecCache.Accounts.cons_of_new hkey hresolver (ih hagrees)
    · rw [heq]
      apply SpecCache.accounts_of_rejected hkey hresolver

section Calls

variable {node : Node} {nodes : List Node} {spec : Spec} {e : Error}

theorem resolverCalls_cons_of_held (hkey : cache.get? node.specKey = some spec) :
  resolverCalls resolver cache (node :: nodes)
    = resolverCalls resolver ⟨cache.specs, cache.hits + 1, cache.misses⟩ nodes
  := by
  rw [resolverCalls, SpecCache.getOrResolve_of_held hkey, hkey]
  rfl

theorem resolverCalls_cons_of_new (hkey : cache.get? node.specKey = none)
    (hresolver : resolver node.specKey = .ok spec) :
  resolverCalls resolver cache (node :: nodes)
    = node.specKey :: resolverCalls resolver
      ⟨cache.specs.insert node.specKey spec, cache.hits, cache.misses + 1⟩ nodes
  := by
  rw [resolverCalls, SpecCache.getOrResolve_of_new hkey hresolver, hkey]
  rfl

theorem resolverCalls_cons_of_rejected (hkey : cache.get? node.specKey = none)
    (hresolver : resolver node.specKey = .error e) :
  resolverCalls resolver cache (node :: nodes) = [node.specKey]
  := by
  rw [resolverCalls, SpecCache.getOrResolve_of_rejected hkey hresolver, hkey]
  rfl

/-- The resolver is asked for the new keys, up to the first that it rejects. -/
theorem resolverCalls_eq :
  resolverCalls resolver cache nodes = cache.askedKeys resolver (nodes.map Node.specKey)
  := by
  induction nodes generalizing cache with
  | nil => rfl
  | cons node nodes ih =>
    rw [List.map_cons]
    obtain ⟨spec, hkey, -⟩ | ⟨spec, hkey, hresolver, -⟩ | ⟨e, hkey, hresolver, -⟩ :=
      cache.getOrResolve_cases node.specKey resolver
    · have hheld := SpecCache.contains_of_get? hkey
      rw [resolverCalls_cons_of_held hkey, ih,
        SpecCache.askedKeys_cons_of_held hheld (SpecCache.extends_of_held hheld)]
    · rw [resolverCalls_cons_of_new hkey hresolver, ih,
        SpecCache.askedKeys_cons_of_new (SpecCache.not_contains_of_get? hkey)
          SpecCache.extends_insert (SpecCache.not_rejects_of_ok hresolver)]
    · rw [resolverCalls_cons_of_rejected hkey hresolver,
        SpecCache.askedKeys_cons_of_rejected (SpecCache.not_contains_of_get? hkey)
          (SpecCache.rejects_of_error hresolver)]

end Calls

/-! ### Compilation with effects -/

theorem run_compileNodesM_recorded {c : CompiledGraph} {nodes : List Node}
    {invocations : List SpecCache.Invocation} :
  (compileNodesM (SpecCache.recorded resolver) c cache nodes).run invocations
    = (compileNodes resolver c cache nodes,
      invocations ++ (resolverCalls resolver cache nodes).map fun key => ⟨key, resolver key⟩)
  := by
  induction nodes generalizing c cache invocations with
  | nil =>
    rw [resolverCalls, List.map_nil, List.append_nil]
    rfl
  | cons node nodes ih =>
    rw [compileNodesM, StateT.run_bind, SpecCache.run_getOrResolveM_recorded, compileNodes_cons]
    obtain ⟨spec, hkey, heq⟩ | ⟨spec, hkey, hresolver, heq⟩ | ⟨e, hkey, hresolver, heq⟩ :=
      cache.getOrResolve_cases node.specKey resolver
    · rw [heq, hkey, resolverCalls_cons_of_held hkey]
      apply ih.trans
      rw [Option.isSome_some, if_pos rfl, List.append_nil]
    · rw [heq, hkey, resolverCalls_cons_of_new hkey hresolver]
      apply ih.trans
      simp
    · rw [heq, hkey, resolverCalls_cons_of_rejected hkey hresolver]
      rfl

/-- The resolver is invoked for the keys that it is asked for, each once. -/
theorem run_compileM_recorded {invocations : List SpecCache.Invocation} :
  (g.compileM cache (SpecCache.recorded resolver)).run invocations
    = (g.compile cache resolver,
      invocations ++ (resolverCalls resolver cache g.nodes).map fun key => ⟨key, resolver key⟩)
  := by
  rw [compileM, StateT.run_bind, run_compileNodesM_recorded, compile_eq_connect]
  rfl

/-- With a cache that agrees with the resolver a graph is compiled to what it is compiled to when
the resolver is asked for every node. A node whose key is the first to be rejected ends the
compilation with its error. The resolver is invoked for the keys that the cache does not hold, each
once and where it is first used, up to the first that it rejects. Afterwards the cache agrees with
the resolver, it holds the specs of these keys besides those that it held, and its counters have
grown by the nodes whose keys were known and by the invocations. -/
theorem compile_transparent (h : cache.Agrees resolver) :
  (g.compile cache resolver).1 = g.compileAfresh resolver
    ∧ (∀ before n after e, g.nodes = before ++ n :: after →
      (∀ m ∈ before, ∃ spec, resolver m.specKey = .ok spec) → resolver n.specKey = .error e →
        (g.compile cache resolver).1 = .error e)
    ∧ (g.compileM cache (SpecCache.recorded resolver)).run []
      = (g.compile cache resolver, (cache.askedKeys resolver (g.nodes.map Node.specKey)).map
        fun key => ⟨key, resolver key⟩)
    ∧ (g.compile cache resolver).2.Agrees resolver
    ∧ (∀ key spec, (g.compile cache resolver).2.get? key = some spec
      ↔ cache.get? key = some spec
        ∨ key ∈ cache.askedKeys resolver (g.nodes.map Node.specKey) ∧ resolver key = .ok spec)
    ∧ (g.compile cache resolver).2.hits
      = cache.hits + cache.knownCount resolver (g.nodes.map Node.specKey)
    ∧ (g.compile cache resolver).2.misses
      = cache.misses + (cache.askedKeys resolver (g.nodes.map Node.specKey)).length
  := by
  have haccounts := @accounts_compileNodes cache resolver h ⟨[], .empty⟩ g.nodes
  refine ⟨?_, ?_, ?_, ?_, ?_, ?_, ?_⟩
  · rw [compile_eq_afresh, h.answer_eq]
  · intro before n after e hnodes hbefore herror
    rw [← h.answer_eq] at hbefore herror
    apply compile_eq_error hnodes hbefore herror
  · rw [run_compileM_recorded, resolverCalls_eq, List.nil_append]
  · rw [compile_eq_connect]
    intro key spec hkey
    obtain hheld | ⟨-, hspec⟩ := (haccounts.held key spec).mp hkey
    · apply h key spec hheld
    · apply hspec
  · rw [compile_eq_connect]
    apply haccounts.held
  · rw [compile_eq_connect]
    apply haccounts.hits
  · rw [compile_eq_connect]
    apply haccounts.misses

/-- A node whose spec is held, two nodes of one new key, a node whose template is lost, and one
behind it. -/
def losing : Graph where
  nodes := [⟨"fit", "make", "main", .empty⟩, ⟨"use", "take", "main", .empty⟩,
    ⟨"show", "take", "main", .empty⟩, ⟨"gone", "lost", "main", .empty⟩,
    ⟨"last", "idle", "main", .empty⟩]
  edges := [⟨"fit", "use"⟩]

/-- The resolver that has a spec for each template but the lost one. -/
def losingResolver (key : SpecKey) : Except Error Spec :=
  if key.template = "lost" then .error (.templateNotFound "lost")
  else .ok ⟨key.template, key.entrypoint, [], [], []⟩

/-- A cache that holds the spec of one template. -/
def losingCache : SpecCache :=
  (SpecCache.empty.getOrResolve ⟨"make", "main"⟩ losingResolver).2

/-- The resolver is asked for the new key once and for that of the lost template, where the
compilation ends. -/
theorem losing_asks :
  losingCache.Agrees losingResolver
    ∧ (losing.compile losingCache losingResolver).1 = .error (.templateNotFound "lost")
    ∧ (losing.compileM losingCache (SpecCache.recorded losingResolver)).run []
      = (losing.compile losingCache losingResolver,
        [⟨⟨"take", "main"⟩, losingResolver ⟨"take", "main"⟩⟩,
          ⟨⟨"lost", "main"⟩, losingResolver ⟨"lost", "main"⟩⟩])
    ∧ (losing.compile losingCache losingResolver).2.hits = 2
    ∧ (losing.compile losingCache losingResolver).2.misses = 3
  := by
  have hagrees : losingCache.Agrees losingResolver := (SpecCache.empty_agrees _).getOrResolve _
  obtain ⟨-, herror, hasked, -, -, hhits, hmisses⟩ := @compile_transparent losing _ _ hagrees
  refine ⟨hagrees, ?_, hasked, hhits, hmisses⟩
  apply herror (losing.nodes.take 3) ⟨"gone", "lost", "main", .empty⟩ (losing.nodes.drop 4) _ rfl
  · intro n hn
    use ⟨n.templateName, n.entrypoint, [], [], []⟩
    simp only [losing, List.take_succ_cons, List.take_zero, List.mem_cons, List.not_mem_nil,
      or_false] at hn
    rcases hn with rfl | rfl | rfl
    all_goals rfl
  · rfl

end Graph

end JobGraph
