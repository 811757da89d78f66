/-
The queue of rebuilds.

Every scope has a worker of its own, which rebuilds one thing at a time and has room for one request
more.  A request that finds the room taken is absorbed: the rebuild that waits has not begun, so it
sees the change too.  Workers take what waits, and end a rebuild with success or not, on their own;
`start?` and `finish?` are these steps.
-/
import StaticSite.OrderedMap
import StaticSite.Watch.Change

namespace StaticSite.Watch

/-- How a rebuild ends. -/
inductive Ending where
  | success
  | failure
  /-- The rebuild broke off. -/
  | crash
  deriving Repr, DecidableEq

/-- The worker of a scope. -/
structure Worker where
  /-- A worker ends with the runtime that it belongs to. -/
  alive : Bool
  /-- Does a request wait? -/
  waiting : Bool
  /-- Does a rebuild run? -/
  running : Bool
  deriving Repr, DecidableEq

/-- A worker that nothing has been asked of. -/
def Worker.fresh : Worker := ⟨true, false, false⟩

/-- What becomes of a request. -/
inductive Admission where
  /-- A rebuild waits because of it. -/
  | queued
  /-- A rebuild waited already. -/
  | absorbed
  deriving Repr, DecidableEq

/-- A rebuild has ended. -/
structure RebuildEvent where
  scope : Scope
  ok : Bool
  deriving Repr, DecidableEq

/-- The workers by scope, in the order of their first requests. -/
structure RebuildQueue where
  workers : OrderedMap Scope Worker
  deriving Repr, DecidableEq

namespace RebuildQueue

/-- A queue without workers. -/
def empty : RebuildQueue := ⟨∅⟩

/-- The worker of a scope. -/
def worker? (q : RebuildQueue) (s : Scope) : Option Worker := q.workers.get? s

/-- Set the worker of a scope. -/
def setWorker (q : RebuildQueue) (s : Scope) (w : Worker) : RebuildQueue := ⟨q.workers.insert s w⟩

/-- The worker of a scope that requests go to: a missing or ended one is replaced. -/
def liveWorker (q : RebuildQueue) (s : Scope) : Worker :=
  match q.worker? s with
  | some w => if w.alive then w else .fresh
  | none => .fresh

/-- Ask for a rebuild of a scope. -/
def request (q : RebuildQueue) (s : Scope) : RebuildQueue × Admission :=
  let w := q.liveWorker s
  if w.waiting then (q, .absorbed) else (q.setWorker s { w with waiting := true }, .queued)

/-- The worker of a scope begins the rebuild that waits, if it can. -/
def start? (q : RebuildQueue) (s : Scope) : Option RebuildQueue :=
  match q.worker? s with
  | some ⟨true, true, false⟩ => some (q.setWorker s ⟨true, false, true⟩)
  | _ => none

/-- The rebuild of a scope ends, if one runs. -/
def finish? (q : RebuildQueue) (s : Scope) (e : Ending) : Option (RebuildQueue × RebuildEvent) :=
  match q.worker? s with
  | some ⟨alive, waiting, true⟩ =>
    some (q.setWorker s ⟨alive, waiting, false⟩, ⟨s, e == .success⟩)
  | _ => none

/-- Does no rebuild run? -/
def isIdle (q : RebuildQueue) : Bool := q.workers.entries.all fun (_, w) => !w.running

/-- The runtime is replaced, which ends all workers; not while a rebuild runs. -/
def restart? (q : RebuildQueue) : Option RebuildQueue :=
  if q.isIdle then some ⟨⟨q.workers.entries.map fun (s, _) => (s, ⟨false, false, false⟩)⟩⟩ else none

/-- The scopes whose rebuild runs. -/
def running (q : RebuildQueue) : List Scope :=
  (q.workers.entries.filter fun (_, w) => w.running).map (·.1)

/-- All workers begin what waits and can begin; the scopes whose rebuild has begun. -/
def settle (q : RebuildQueue) : RebuildQueue × List Scope :=
  q.workers.keys.foldl
    (fun (q, begun) s =>
      match q.start? s with
      | some next => (next, begun ++ [s])
      | none => (q, begun))
    (q, [])

/-! ## Small lemmas -/

@[simp] theorem worker?_setWorker_self (q : RebuildQueue) (s : Scope) (w : Worker) :
    (q.setWorker s w).worker? s = some w :=
  OrderedMap.get?_insert_self q.workers s w

theorem worker?_setWorker_of_ne (q : RebuildQueue) {s other : Scope} (h : other ≠ s) (w : Worker) :
    (q.setWorker s w).worker? other = q.worker? other :=
  OrderedMap.get?_insert_of_ne q.workers h w

end RebuildQueue

end StaticSite.Watch
