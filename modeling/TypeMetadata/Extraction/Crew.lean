import TypeMetadata.Extraction.Pass

/-!
The pass of a generation run by a crew of workers. The workers share the flag that asks them to
stop, a counter, from which each takes the position of its next item, and a list, to which each adds
what became of its item. They take their steps in any order. When all have stopped, what they found
is put in the order of the items and taken in as if it had been found one after another.
-/

namespace TypeMetadata

inductive Worker (α β : Type)
  | ready
  /-- Has found the flag unset, and takes the next item whatever becomes of the flag. -/
  | cleared
  /-- Has taken the item at a position. -/
  | claimed (index : Nat) (item : α)
  /-- Has found out what becomes of the item at a position. -/
  | holding (index : Nat) (found : β)
  | stopped

/-- A crew at work: the flag as the next look will find it, the position that the next worker takes,
the workers, and what was found so far, in order of arrival. -/
structure Crew (α β : Type) where
  token : CancelToken
  next : Nat
  workers : Array (Worker α β)
  arrivals : Array (Nat × β)

namespace Crew

variable {α β : Type}

def start (token : CancelToken) (workers : Nat) : Crew α β :=
  ⟨token, 0, Array.replicate workers .ready, #[]⟩

def isFinished (crew : Crew α β) : Bool :=
  crew.workers.all fun
    | .stopped => true
    | _ => false

/-- One step of one worker. Before it takes an item a worker looks at the flag, and others may act
between the look and the taking. It stops if it finds the flag set or the items used up. -/
def step (work : α → β) (items : Array α) (crew : Crew α β) (name : Nat) : Crew α β :=
  match crew.workers[name]? with
  | none => crew
  | some .stopped => crew
  | some .ready =>
    if crew.token.isCancelled then
      { crew with workers := crew.workers.setIfInBounds name .stopped }
    else {
      crew with
      token := crew.token.afterLook
      workers := crew.workers.setIfInBounds name .cleared }
  | some .cleared =>
    let worker :=
      match items[crew.next]? with
      | some item => .claimed crew.next item
      | none => .stopped
    { crew with next := crew.next + 1, workers := crew.workers.setIfInBounds name worker }
  | some (.claimed index item) =>
    { crew with workers := crew.workers.setIfInBounds name (.holding index (work item)) }
  | some (.holding index found) => {
    crew with
    workers := crew.workers.setIfInBounds name .ready
    arrivals := crew.arrivals.push (index, found) }

def follow (work : α → β) (items : Array α) (crew : Crew α β) (schedule : List Nat) : Crew α β :=
  schedule.foldl (step work items) crew

/-- What was found, in the order of the items. -/
def findings (crew : Crew α β) : List (Nat × β) :=
  crew.arrivals.toList.mergeSort fun a b => a.1 ≤ b.1

end Crew

def roundRobin (workers rounds : Nat) : List Nat :=
  (List.replicate rounds (List.range workers)).flatten

namespace Pass

def absorb (progress : Progress) :
    List (Nat × Query (Except DescriptorError Outcome)) → Query Progress
  | [] => return progress
  | (index, found) :: findings => do
    let extracted ← found
    absorb (progress.commit index extracted) findings

/-- The number of workers for some items: as many as the settings ask for, or as there are cores if
they do not care, but at least one and not more than there are items. -/
def workerCount (pass : Pass) (cores : Nat) (items : List Item) : Nat :=
  let wanted := if pass.parallelism = 0 then cores else pass.parallelism.toNat
  max 1 (min wanted (max 1 items.length))

def runScheduled (pass : Pass) (workers : Nat) (schedule : List Nat) (items : List Item) :
    Query Report := do
  let crew := (Crew.start pass.token workers).follow pass.extract items.toArray schedule
  let progress ← absorb pass.begin crew.findings
  return progress.report items

/-- Run over the items with a crew of workers. A worker takes four steps for an item and two to
stop, so that many turns suffice even if one worker does all the work. -/
def runParallel (pass : Pass) (cores : Nat) (items : List Item) : Query Report :=
  let workers := pass.workerCount cores items
  pass.runScheduled workers (roundRobin workers (4 * items.length + 2)) items

end Pass

end TypeMetadata
