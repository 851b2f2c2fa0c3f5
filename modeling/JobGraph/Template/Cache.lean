import JobGraph.Dictionary
import JobGraph.Graph.Basic
import JobGraph.Template.Spec

/-!
# Cache of specs

A cache lives for one compilation. It keeps every spec that was resolved, so that a resolver
is asked at most once for a key that it can resolve, and it counts the requests it could and
could not answer. Failures are not kept.

A resolver may have effects in `SpecCache.getOrResolveM`; `SpecCache.getOrResolve` is the same
for a resolver that has none.
-/

namespace JobGraph

/-- The specs resolved so far and the numbers of requests. -/
structure SpecCache where
  specs : Dictionary SpecKey Spec
  /-- The requests that the cache answered. -/
  hits : Nat
  /-- The requests that went to a resolver. -/
  misses : Nat
deriving DecidableEq

namespace SpecCache

/-- The cache at the start of a compilation. -/
def empty : SpecCache := ⟨.empty, 0, 0⟩

/-- The spec kept under a key. -/
def get? (cache : SpecCache) (key : SpecKey) : Option Spec :=
  cache.specs.get? key

/-- The number of specs kept. -/
def size (cache : SpecCache) : Nat :=
  cache.specs.size

/-- The spec of a key: the one kept, or else the one that the resolver gives, which is kept
if there is one. -/
def getOrResolveM {m : Type → Type} [Monad m] (cache : SpecCache) (key : SpecKey)
    (resolver : SpecKey → m (Except Error Spec)) : m (Except Error Spec × SpecCache) :=
  match cache.get? key with
  | some spec => pure (.ok spec, ⟨cache.specs, cache.hits + 1, cache.misses⟩)
  | none => do
    match ← resolver key with
    | .ok spec => pure (.ok spec, ⟨cache.specs.insert key spec, cache.hits, cache.misses + 1⟩)
    | .error e => pure (.error e, ⟨cache.specs, cache.hits, cache.misses + 1⟩)

/-- The spec of a key, from a resolver without effects. -/
def getOrResolve (cache : SpecCache) (key : SpecKey) (resolver : SpecKey → Except Error Spec) :
    Except Error Spec × SpecCache :=
  Id.run (cache.getOrResolveM key fun key => pure (resolver key))

end SpecCache

end JobGraph
