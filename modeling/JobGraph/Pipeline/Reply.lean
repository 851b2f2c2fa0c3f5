import JobGraph.Duration
import JobGraph.Error

/-!
# Replies of services

A service that is asked replies after some time or never. Who asks waits for no longer than a
limit; a reply that is there when the limit is reached still counts. Several services may be
asked together: `gather` asks them in order, and says which ones were asked and what came of
it.
-/

namespace JobGraph

/-- What a service that is asked does. -/
inductive Reply (α : Type) where
  | after (delay : Duration) (result : Except Error α)
  | never

namespace Reply

variable {α β : Type}

/-- A reply without delay. -/
def now (result : Except Error α) : Reply α :=
  .after .zero result

/-- What is known of a call when its time is over: how long it took, and its result. -/
structure Done (α : Type) where
  time : Duration
  result : Except Error α

namespace Done

/-- Whether a call failed at once. -/
def failedAtOnce (d : Done α) : Bool :=
  match d.result with
  | .ok _ => false
  | .error _ => d.time = .zero

/-- Whether a call succeeded at once. -/
def succeededAtOnce (d : Done α) : Bool :=
  match d.result with
  | .ok _ => d.time = .zero
  | .error _ => false

/-- The error of a call. -/
def error? (d : Done α) : Option Error :=
  match d.result with
  | .ok _ => none
  | .error e => some e

end Done

/-- What becomes of a call within a limit, whose expiry is the error `expired`. -/
def within (reply : Reply α) (limit : Duration) (expired : Error) : Done α :=
  match reply with
  | .after delay result =>
    if delay.nanoseconds ≤ limit.nanoseconds then ⟨delay, result⟩ else ⟨limit, .error expired⟩
  | .never => ⟨limit, .error expired⟩

/-! ### Calls together -/

/-- The largest number of calls that are watched all at once. Of more calls the results are
taken in order. -/
def watchedTogether : Nat := 30

/-- The calls that are made: those up to the first one that ends the asking. -/
def madeUntil (ends : Done α → Bool) : List (Done α) → List (Done α)
  | [] => []
  | d :: ds => if ends d then [d] else d :: madeUntil ends ds

/-- The calls that are made in order. A failure at once ends the asking, but when the results
are taken in order only if it is the next result. -/
def made (ordered : Bool) (calls : List (Done α)) : List (Done α) :=
  if ordered then
    let prompt := calls.takeWhile Done.succeededAtOnce
    match calls.drop prompt.length with
    | d :: _ => if d.failedAtOnce then prompt ++ [d] else calls
    | [] => calls
  else madeUntil Done.failedAtOnce calls

/-- The error that comes first, and of errors at one time the one that stands first. -/
def firstError : List (Done α) → Option (Duration × Error)
  | [] => none
  | d :: ds =>
    match d.error?, firstError ds with
    | none, later => later
    | some e, none => some (d.time, e)
    | some e, some (time, later) =>
      if d.time.nanoseconds ≤ time.nanoseconds then some (d.time, e) else some (time, later)

/-- The results of calls when all succeeded. -/
def allResults : List (Done α) → Except Error (List α)
  | [] => .ok []
  | d :: ds =>
    match d.result, allResults ds with
    | .ok a, .ok results => .ok (a :: results)
    | .ok _, .error e => .error e
    | .error e, _ => .error e

/-- The joint result of calls: their results, or an error. -/
def join (ordered : Bool) (calls : List (Done α)) : Except Error (List α) :=
  match ordered, firstError calls with
  | false, some (_, e) => .error e
  | _, _ => allResults calls

/-- Ask for each name in order. The result says how many were asked. -/
def gather (call : String → Done α) (names : List String) :
    List String × Except Error (List α) :=
  let ordered : Bool := watchedTogether < names.length
  let calls := made ordered (names.map call)
  (names.take calls.length, join ordered calls)

end Reply

end JobGraph
