import TypeMetadata.Extraction.Crew
import TypeMetadata.Proofs.Extraction.Run

/-!
A crew finds what one worker would find. Whatever the order of the steps, each position below the
counter is in the hands of exactly one worker or handed in, and for each look that finds the flag
unset the counter has moved on or will do so. So a crew that has stopped has handed in every position
once that one worker would have come to, and putting the findings in order undoes the interleaving.
-/

namespace TypeMetadata

variable {α β : Type}

/-- What one worker may do: the worker before and after, the flag and the counter after, and what is
handed in. -/
inductive Worker.Acts (work : α → β) (items : Array α) (token : CancelToken) (next : Nat) :
    Worker α β → Worker α β → CancelToken → Nat → List (Nat × β) → Prop
  | quit (hcancelled : token.isCancelled = true) :
      Acts work items token next .ready .stopped token next []
  | look (hunset : token.isCancelled = false) :
      Acts work items token next .ready .cleared token.afterLook next []
  | leave (hitem : items[next]? = none) :
      Acts work items token next .cleared .stopped token (next + 1) []
  | claim {item : α} (hitem : items[next]? = some item) :
      Acts work items token next .cleared (.claimed next item) token (next + 1) []
  | find {index : Nat} {item : α} :
      Acts work items token next (.claimed index item) (.holding index (work item)) token next []
  | handIn {index : Nat} {found : β} :
      Acts work items token next (.holding index found) .ready token next [(index, found)]

/-- What a worker has in hand, once it is found out. -/
def Worker.inHand (work : α → β) : Worker α β → List (Nat × β)
  | .ready | .cleared => []
  | .claimed index item => [(index, work item)]
  | .holding index found => [(index, found)]
  | .stopped => []

def Worker.isCleared : Worker α β → Bool
  | .cleared => true
  | _ => false

/-- A bound on the steps that a worker still takes while some items are left. -/
def Worker.stepsLeft (itemsLeft : Nat) : Worker α β → Nat
  | .ready => 4 * itemsLeft + 2
  | .cleared => 4 * itemsLeft + 1
  | .claimed _ _ => 4 * itemsLeft + 4
  | .holding _ _ => 4 * itemsLeft + 3
  | .stopped => 0

theorem Worker.stepsLeft_mono {fewer more : Nat} (hle : fewer ≤ more) (worker : Worker α β) :
    worker.stepsLeft fewer ≤ worker.stepsLeft more := by
  cases worker <;> simp [stepsLeft] <;> omega

theorem Worker.stepsLeft_eq_zero_iff {itemsLeft : Nat} {worker : Worker α β} :
    worker.stepsLeft itemsLeft = 0 ↔ worker = .stopped := by
  cases worker <;> simp [stepsLeft]

namespace Worker.Acts

variable {work : α → β} {items : Array α} {token left : CancelToken} {before after : Worker α β}
  {next later : Nat} {handed : List (Nat × β)}

theorem le_later (hacts : before.Acts work items token next after left later handed) :
    next ≤ later := by
  cases hacts <;> omega

theorem stepsLeft_lt (hacts : before.Acts work items token next after left later handed) :
    after.stepsLeft (items.size - later) < before.stepsLeft (items.size - next) := by
  cases hacts with
  | claim hitem =>
      have := (Array.getElem?_eq_some_iff.mp hitem).1
      simp only [stepsLeft]
      omega
  | _ => simp [stepsLeft]

/-- The flag is touched by looks alone, and a worker is cleared from its look until the counter moves
on. -/
theorem looks_cases (hacts : before.Acts work items token next after left later handed) :
    (token.isCancelled = false ∧ left = token.afterLook ∧
        later + after.isCleared.toNat = next + before.isCleared.toNat + 1) ∨
      (left = token ∧ later + after.isCleared.toNat = next + before.isCleared.toNat) := by
  cases hacts with
  | look hunset => exact .inl ⟨hunset, rfl, rfl⟩
  | _ => exact .inr ⟨rfl, rfl⟩

/-- A worker stops only if no more items may be taken. -/
theorem allowance_of_stopped
    (hacts : before.Acts work items token next .stopped left later handed) {looks : Nat}
    (hlooks : later ≤ looks) : left.allowance (items.size - looks) = 0 := by
  cases hacts with
  | quit hcancelled => exact CancelToken.allowance_of_isCancelled hcancelled _
  | leave hitem =>
      have hall := Array.getElem?_eq_none_iff.mp hitem
      rw [Nat.sub_eq_zero_of_le (by omega), CancelToken.allowance_zero]

end Worker.Acts

namespace Crew

variable {work : α → β} {items : Array α} {token : CancelToken} {crew : Crew α β}

theorem step_cases (work : α → β) (items : Array α) (crew : Crew α β) (name : Nat) :
    (crew.step work items name = crew ∧ ∀ worker, crew.workers[name]? = some worker →
        worker = .stopped) ∨
      ∃ before after left next handed, crew.workers[name]? = some before ∧
        before.Acts work items crew.token crew.next after left next handed ∧
        crew.step work items name =
          ⟨left, next, crew.workers.setIfInBounds name after, crew.arrivals ++ handed.toArray⟩ := by
  cases hworker : crew.workers[name]? with
  | none => exact .inl ⟨by simp only [step, hworker], by simp⟩
  | some worker =>
      cases worker with
      | ready =>
          right
          cases hcancelled : crew.token.isCancelled with
          | true =>
              exact ⟨_, _, _, _, _, rfl, .quit hcancelled, by simp [step, hworker, hcancelled]⟩
          | false =>
              exact ⟨_, _, _, _, _, rfl, .look hcancelled, by simp [step, hworker, hcancelled]⟩
      | cleared =>
          right
          cases hitem : items[crew.next]? with
          | none => exact ⟨_, _, _, _, _, rfl, .leave hitem, by simp [step, hworker, hitem]⟩
          | some item => exact ⟨_, _, _, _, _, rfl, .claim hitem, by simp [step, hworker, hitem]⟩
      | claimed index item =>
          exact .inr ⟨_, _, _, _, _, rfl, .find, by simp [step, hworker]⟩
      | holding index found =>
          exact .inr ⟨_, _, _, _, _, rfl, .handIn, by simp [step, hworker]⟩
      | stopped => exact .inl ⟨by simp only [step, hworker], by simp⟩

theorem follow_cons (name : Nat) (schedule : List Nat) :
    crew.follow work items (name :: schedule) =
      (crew.step work items name).follow work items schedule :=
  rfl

theorem size_workers_step (name : Nat) :
    (crew.step work items name).workers.size = crew.workers.size := by
  rcases crew.step_cases work items name with ⟨heq, -⟩ | ⟨_, _, _, _, _, -, -, heq⟩ <;>
    simp [heq]

/-! ### Nothing is lost and nothing is found twice -/

def findable (work : α → β) (items : Array α) : List (Nat × β) :=
  items.toList.zipIdx.map fun slot => (slot.2, work slot.1)

def inHand (work : α → β) (crew : Crew α β) : List (Nat × β) :=
  crew.workers.toList.flatMap (Worker.inHand work)

/-- How many looks have found the flag unset. The counter has moved on for each of them but those of
the workers that are cleared. -/
def looks (crew : Crew α β) : Nat :=
  crew.next + crew.workers.toList.countP Worker.isCleared

/-- Every position below the counter is handed in or in hand, once. The items that were looked for
and those that may still be looked for are as many as one worker would take, and there are no more
to be looked for as soon as a worker has stopped. -/
structure Accounted (work : α → β) (items : Array α) (token : CancelToken) (crew : Crew α β) :
    Prop where
  claims : (crew.arrivals.toList ++ crew.inHand work).Perm ((findable work items).take crew.next)
  allowance_eq : min crew.looks items.size + crew.token.allowance (items.size - crew.looks) =
    token.allowance items.size
  exhausted : .stopped ∈ crew.workers → crew.token.allowance (items.size - crew.looks) = 0

theorem length_findable : (findable work items).length = items.size := by
  simp [findable]

theorem mem_findable {index : Nat} {found : β} :
    (index, found) ∈ findable work items ↔
      ∃ item, items[index]? = some item ∧ found = work item := by
  simp only [findable, List.mem_map, Prod.exists, List.mem_zipIdx_iff_getElem?,
    Array.getElem?_toList, Prod.mk.injEq]
  constructor
  · rintro ⟨item, _, hitem, rfl, rfl⟩
    exact ⟨item, hitem, rfl⟩
  · rintro ⟨item, hitem, rfl⟩
    exact ⟨item, index, hitem, rfl, rfl⟩

theorem take_findable_succ {next : Nat} {item : α} (hitem : items[next]? = some item) :
    (findable work items).take (next + 1) =
      (findable work items).take next ++ [(next, work item)] := by
  rw [List.take_add_one]
  simp [findable, hitem]

/-- Exchanging one worker exchanges what that worker has in hand. -/
theorem flatMap_set_perm {γ δ : Type} (f : γ → List δ) {l : List γ} {index : Nat} {old : γ}
    (hold : l[index]? = some old) (new : γ) :
    (f old ++ (l.set index new).flatMap f).Perm (f new ++ l.flatMap f) := by
  obtain ⟨hlt, rfl⟩ := List.getElem?_eq_some_iff.mp hold
  obtain ⟨before, after, hl, -, hset⟩ : ∃ before after, l = before ++ l[index] :: after ∧
      before.length = index ∧ l.set index new = before ++ new :: after := List.exists_of_set hlt
  have hflat : l.flatMap f = before.flatMap f ++ (f l[index] ++ after.flatMap f) := by
    conv_lhs => rw [hl, List.flatMap_append, List.flatMap_cons]
  rw [hset, hflat, List.flatMap_append, List.flatMap_cons]
  calc
    f l[index] ++ (before.flatMap f ++ (f new ++ after.flatMap f))
    _ |>.Perm (f l[index] ++ (f new ++ (before.flatMap f ++ after.flatMap f))) :=
      (List.perm_append_comm_assoc _ _ _).append_left _
    _ |>.Perm (f new ++ (f l[index] ++ (before.flatMap f ++ after.flatMap f))) :=
      List.perm_append_comm_assoc _ _ _
    _ |>.Perm (f new ++ (before.flatMap f ++ (f l[index] ++ after.flatMap f))) :=
      (List.perm_append_comm_assoc _ _ _).append_left _

theorem countP_set_add {γ : Type} (p : γ → Bool) {l : List γ} {index : Nat} {old : γ}
    (hold : l[index]? = some old) (new : γ) :
    (l.set index new).countP p + (p old).toNat = l.countP p + (p new).toNat := by
  obtain ⟨hlt, rfl⟩ := List.getElem?_eq_some_iff.mp hold
  rw [List.countP_set hlt]
  cases hp : p l[index] with
  | false => cases p new <;> simp
  | true =>
      have hpos : 0 < l.countP p := List.countP_pos_iff.mpr ⟨_, List.getElem_mem hlt, hp⟩
      cases p new <;> simp <;> omega

theorem accounted_start (workers : Nat) :
    Accounted work items token (start token workers) where
  claims := by
    have hnone : (start token workers : Crew α β).inHand work = [] := by
      simp [inHand, start, Worker.inHand]
    rw [hnone]
    exact .nil
  allowance_eq := by
    have hnone : (start token workers : Crew α β).looks = 0 := by
      simp [looks, start, List.countP_replicate, Worker.isCleared]
    rw [hnone, Nat.zero_min, Nat.zero_add, Nat.sub_zero]
    rfl
  exhausted hstopped := by simp [start] at hstopped

/-- What a step hands in and leaves in hand, together, is what was in hand, and the next item if one
is taken. -/
theorem claims_step {before after : Worker α β} {left : CancelToken} {next name : Nat}
    {handed : List (Nat × β)}
    (hclaims : (crew.arrivals.toList ++ crew.inHand work).Perm
      ((findable work items).take crew.next))
    (hbefore : crew.workers[name]? = some before)
    (hacts : before.Acts work items crew.token crew.next after left next handed) :
    (crew.arrivals.toList ++ handed ++
      (crew.workers.toList.set name after).flatMap (Worker.inHand work)).Perm
        ((findable work items).take next) := by
  rw [← Array.getElem?_toList] at hbefore
  have hset := flatMap_set_perm (Worker.inHand work) hbefore after
  cases hacts with
  | quit hcancelled =>
      rw [List.append_nil]
      exact (hset.append_left _).trans hclaims
  | look hunset =>
      rw [List.append_nil]
      exact (hset.append_left _).trans hclaims
  | leave hitem =>
      have hall : (findable work items).length ≤ crew.next := by
        rw [length_findable]
        exact Array.getElem?_eq_none_iff.mp hitem
      rw [List.append_nil, List.take_of_length_le (by omega)]
      rw [List.take_of_length_le hall] at hclaims
      exact (hset.append_left _).trans hclaims
  | claim hitem =>
      rw [List.append_nil, take_findable_succ hitem]
      exact ((hset.append_left _).trans (List.perm_append_comm_assoc _ _ _)).trans
        ((List.perm_append_comm).trans (hclaims.append_right _))
  | find =>
      rw [List.append_nil]
      exact (((List.perm_append_left_iff _).mp hset).append_left _).trans hclaims
  | handIn =>
      rw [List.append_assoc]
      exact (hset.append_left _).trans hclaims

/-- A look that finds the flag unset is one less that may do so, and no other step changes how many
may. -/
theorem looks_step (work : α → β) (items : Array α) (crew : Crew α β) (name : Nat) :
    crew.looks ≤ (crew.step work items name).looks ∧
      min (crew.step work items name).looks items.size +
          (crew.step work items name).token.allowance
            (items.size - (crew.step work items name).looks) =
        min crew.looks items.size + crew.token.allowance (items.size - crew.looks) := by
  rcases crew.step_cases work items name with
    ⟨heq, -⟩ | ⟨before, after, left, next, handed, hbefore, hacts, heq⟩
  · rw [heq]
    exact ⟨Nat.le_refl _, rfl⟩
  · rw [← Array.getElem?_toList] at hbefore
    have hcount := countP_set_add Worker.isCleared hbefore after
    have hbeforeLooks : crew.looks =
        crew.next + crew.workers.toList.countP Worker.isCleared := rfl
    have hafterLooks : (crew.step work items name).looks =
        next + (crew.workers.toList.set name after).countP Worker.isCleared := by
      rw [heq, looks, Array.toList_setIfInBounds]
    have htoken : (crew.step work items name).token = left := by rw [heq]
    rw [htoken]
    rcases hacts.looks_cases with ⟨hunset, rfl, hmoved⟩ | ⟨rfl, hmoved⟩
    · have hlooks : (crew.step work items name).looks = crew.looks + 1 := by omega
      rw [hlooks]
      exact ⟨Nat.le_succ _, CancelToken.allowance_afterLook hunset _ _⟩
    · have hlooks : (crew.step work items name).looks = crew.looks := by omega
      rw [hlooks]
      exact ⟨Nat.le_refl _, rfl⟩

theorem accounted_step (haccounted : Accounted work items token crew) (name : Nat) :
    Accounted work items token (crew.step work items name) := by
  obtain ⟨hle, hallowance⟩ := looks_step work items crew name
  rcases crew.step_cases work items name with
    ⟨heq, -⟩ | ⟨before, after, left, next, handed, hbefore, hacts, heq⟩
  · rwa [heq]
  · refine ⟨?_, hallowance.trans haccounted.allowance_eq, ?_⟩
    · rw [heq]
      simpa [inHand] using claims_step haccounted.claims hbefore hacts
    · intro hstopped
      rw [heq] at hstopped
      rcases Array.mem_or_eq_of_mem_setIfInBounds hstopped with hmem | rfl
      · have hnone := haccounted.exhausted hmem
        omega
      · rw [heq]
        exact hacts.allowance_of_stopped (Nat.le_add_right _ _)

theorem accounted_follow (haccounted : Accounted work items token crew) (schedule : List Nat) :
    Accounted work items token (crew.follow work items schedule) := by
  induction schedule generalizing crew with
  | nil => exact haccounted
  | cons name schedule ih => exact ih (accounted_step haccounted name)

theorem size_workers_follow (schedule : List Nat) :
    (crew.follow work items schedule).workers.size = crew.workers.size := by
  induction schedule generalizing crew with
  | nil => rfl
  | cons name schedule ih => rw [follow_cons, ih, size_workers_step]

theorem isFinished_iff : crew.isFinished = true ↔ ∀ worker ∈ crew.workers, worker = .stopped := by
  rw [isFinished, Array.all_eq_true']
  constructor
  · intro hall worker hworker
    have := hall worker hworker
    cases worker <;> simp_all
  · intro hall worker hworker
    rw [hall worker hworker]

/-! ### Findings in the order of the items -/

theorem pairwise_findable :
    (findable work items).Pairwise fun a b => a.1 < b.1 := by
  rw [findable, List.pairwise_map, List.pairwise_iff_getElem]
  intro i j hi hj hij
  simpa using hij

/-- However the findings arrived, they are all there and in the order of the items. -/
theorem findings_eq_take (haccounted : Accounted work items token crew)
    (hsize : 0 < crew.workers.size) (hfinished : crew.isFinished = true) :
    crew.findings = (findable work items).take (token.allowance items.size) := by
  rw [isFinished_iff] at hfinished
  have hinHand : crew.inHand work = [] := by
    rw [inHand, List.flatMap_eq_nil_iff]
    intro worker hworker
    rw [hfinished worker (by simpa using hworker)]
    rfl
  have hstopped : .stopped ∈ crew.workers := by
    have hmem := Array.getElem_mem hsize
    rwa [hfinished _ hmem] at hmem
  have hlooks : crew.looks = crew.next := by
    rw [looks, List.countP_eq_zero.mpr, Nat.add_zero]
    intro worker hworker
    rw [hfinished worker (by simpa using hworker)]
    exact Bool.false_ne_true
  have htaken : (findable work items).take crew.next =
      (findable work items).take (token.allowance items.size) := by
    have hlength : (findable work items).length = items.size := length_findable
    rw [← haccounted.allowance_eq, haccounted.exhausted hstopped, Nat.add_zero, hlooks, ← hlength,
      List.take_eq_take_min]
  have hperm : crew.arrivals.toList.Perm
      ((findable work items).take (token.allowance items.size)) := by
    have hclaims := haccounted.claims
    rwa [hinHand, List.append_nil, htaken] at hclaims
  have hsorted : ((findable work items).take (token.allowance items.size)).Pairwise
      fun a b => decide (a.1 ≤ b.1) :=
    (pairwise_findable.sublist (List.take_sublist _ _)).imp fun hlt => by simp; omega
  rw [findings]
  refine List.Perm.eq_of_pairwise (fun a b ha hb hab hba => ?_)
    (List.pairwise_mergeSort (by simp; omega) (by simp; omega) _) hsorted
    ((List.mergeSort_perm _ _).trans hperm)
  obtain ⟨index, found⟩ := a
  obtain ⟨position, other⟩ := b
  have hindex : index = position := by
    simp only [decide_eq_true_eq] at hab hba
    omega
  subst hindex
  rw [List.mem_mergeSort, hperm.mem_iff] at ha
  obtain ⟨item, hitem, rfl⟩ := mem_findable.mp (List.mem_of_mem_take ha)
  obtain ⟨_, hsame, rfl⟩ := mem_findable.mp (List.mem_of_mem_take hb)
  rw [hitem, Option.some_inj] at hsame
  rw [hsame]

/-! ### Every crew whose workers take enough steps comes to an end -/

def stepsLeft (items : Array α) (crew : Crew α β) (name : Nat) : Nat :=
  (crew.workers[name]?.map (Worker.stepsLeft (items.size - crew.next))).getD 0

/-- A worker's own step brings its end nearer, and the steps of others do not put it off. -/
theorem stepsLeft_step_le (work : α → β) (items : Array α) (crew : Crew α β)
    (name mover : Nat) :
    (crew.step work items mover).stepsLeft items name ≤
      crew.stepsLeft items name - [mover].count name := by
  rcases crew.step_cases work items mover with
    ⟨heq, hstopped⟩ | ⟨before, after, left, next, handed, hbefore, hacts, heq⟩
  · rw [heq]
    by_cases hmover : mover = name
    · subst hmover
      cases hworker : crew.workers[mover]? with
      | none => simp [stepsLeft, hworker]
      | some worker => simp [stepsLeft, hworker, hstopped worker hworker, Worker.stepsLeft]
    · simp [hmover]
  · rw [heq]
    by_cases hmover : mover = name
    · subst hmover
      have hlt := hacts.stepsLeft_lt
      have hsize := (Array.getElem?_eq_some_iff.mp hbefore).1
      simp only [stepsLeft, Array.getElem?_setIfInBounds_self_of_lt hsize, hbefore,
        Option.map_some, Option.getD_some, List.count_singleton_self]
      omega
    · have hle : items.size - next ≤ items.size - crew.next := by
        have := hacts.le_later
        omega
      simp only [stepsLeft, Array.getElem?_setIfInBounds_ne hmover, List.count_singleton,
        beq_iff_eq, hmover, if_false, Nat.sub_zero]
      cases crew.workers[name]? with
      | none => simp
      | some worker => exact Worker.stepsLeft_mono hle worker

theorem stepsLeft_follow_le (work : α → β) (items : Array α) (crew : Crew α β)
    (name : Nat) (schedule : List Nat) :
    (crew.follow work items schedule).stepsLeft items name ≤
      crew.stepsLeft items name - schedule.count name := by
  induction schedule generalizing crew with
  | nil => simp [follow]
  | cons mover schedule ih =>
      have hstep := stepsLeft_step_le work items crew name mover
      have hrest := ih (crew.step work items mover)
      rw [follow_cons, ← List.singleton_append, List.count_append]
      omega

/-- A crew has stopped as soon as each worker had four turns for each item and two more, whatever
the order of the turns. -/
theorem isFinished_follow {workers : Nat} {schedule : List Nat}
    (hturns : ∀ name < workers, 4 * items.size + 2 ≤ schedule.count name) :
    ((start token workers).follow work items schedule).isFinished = true := by
  rw [isFinished_iff]
  intro worker hworker
  obtain ⟨name, hname⟩ := Array.mem_iff_getElem?.mp hworker
  have hlt : name < workers := by
    have := (Array.getElem?_eq_some_iff.mp hname).1
    simpa [size_workers_follow, start] using this
  have hstart : (start token workers : Crew α β).stepsLeft items name = 4 * items.size + 2 := by
    simp [stepsLeft, start, Worker.stepsLeft, hlt]
  have hbound := stepsLeft_follow_le work items (start token workers) name schedule
  have hturn := hturns name hlt
  rw [hstart, stepsLeft, hname, Option.map_some, Option.getD_some] at hbound
  rw [← Worker.stepsLeft_eq_zero_iff]
  exact Nat.le_zero.mp (Nat.le_trans hbound (by omega))

theorem count_roundRobin {workers rounds name : Nat} (hname : name < workers) :
    (roundRobin workers rounds).count name = rounds := by
  rw [roundRobin, List.count_flatten, List.map_replicate, List.sum_replicate_nat,
    List.count_range, if_pos hname, Nat.mul_one]

end Crew

namespace Pass

open Crew

variable {pass : Pass}

theorem absorb_eq_advance (progress : Progress) (slots : List (Item × Nat)) :
    absorb progress (slots.map fun slot => (slot.2, pass.extract slot.1)) =
      pass.advance .fresh progress slots := by
  induction slots generalizing progress with
  | nil => rfl
  | cons slot slots ih =>
      obtain ⟨item, index⟩ := slot
      rw [List.map_cons, absorb, advance_cons rfl]
      simp only [ih]
      rfl

/-- What a crew of any size finds by any schedule comes to the report of a single worker. -/
theorem runScheduled_eq {workers : Nat} {schedule : List Nat} {items : List Item}
    (hworkers : 0 < workers)
    (hfinished : ((Crew.start pass.token workers).follow pass.extract items.toArray
      schedule).isFinished = true) :
    pass.runScheduled workers schedule items = pass.run items := by
  have haccounted : Accounted pass.extract items.toArray pass.token
      ((Crew.start pass.token workers).follow pass.extract items.toArray schedule) :=
    accounted_follow (accounted_start workers) schedule
  have hsize : 0 < ((Crew.start pass.token workers).follow pass.extract items.toArray
      schedule).workers.size := by
    rw [size_workers_follow]
    simpa [Crew.start] using hworkers
  rw [runScheduled, run, advance_eq_take, findings_eq_take haccounted hsize hfinished, findable,
    ← List.map_take, absorb_eq_advance, List.length_zipIdx]
  rfl

theorem workerCount_pos (pass : Pass) (cores : Nat) (items : List Item) :
    0 < pass.workerCount cores items := by
  simp only [workerCount]
  omega

theorem runParallel_eq (pass : Pass) (cores : Nat) (items : List Item) :
    pass.runParallel cores items = pass.run items := by
  apply runScheduled_eq (pass.workerCount_pos cores items)
  apply isFinished_follow
  intro name hname
  exact Nat.le_of_eq (count_roundRobin hname).symm

/-- A report that a pass over items comes to, by itself or with a crew, whether it was stopped or
not. -/
inductive Yields (pass : Pass) (items : List Item) (report : Report) : Prop
  | alone (hrun : pass.run items = .ok report)
  | crew (workers : Nat) (schedule : List Nat) (hworkers : 0 < workers)
      (hfinished : ((Crew.start pass.token workers).follow pass.extract items.toArray
        schedule).isFinished = true)
      (hrun : pass.runScheduled workers schedule items = .ok report)

theorem yields_iff {items : List Item} {report : Report} :
    pass.Yields items report ↔ pass.run items = .ok report := by
  constructor
  · rintro (hrun | ⟨workers, schedule, hworkers, hfinished, hrun⟩)
    · exact hrun
    · rwa [runScheduled_eq hworkers hfinished] at hrun
  · exact .alone

/-- The report does not depend on how many workers there are nor on the order of their steps, as
long as all of them have stopped, whenever the flag is set. A run that is cancelled before it starts
reports the configured application parts and nothing else. -/
theorem report_of_crew {program : Program} {config : Config}
    (hstart : Pass.start program config = .ok pass) (token : CancelToken) (items : List Item) :
    (∀ workers schedule, 0 < workers →
      ((Crew.start token workers).follow pass.extract items.toArray schedule).isFinished = true →
        (pass.withToken token).runScheduled workers schedule items =
          (pass.withToken token).run items) ∧
      (∀ cores, (pass.withToken token).runParallel cores items =
        (pass.withToken token).run items) ∧
      (token.isCancelled = true → ∃ report, (pass.withToken token).run items = .ok report ∧
        report.processed = 0 ∧ report.total = items.length ∧ report.failures = #[] ∧
        report.catalog = { Catalog.empty with
          applicationParts := report.catalog.applicationParts } ∧
        ∀ part, part ∈ report.catalog.applicationParts ↔ part ∈ config.applicationParts) := by
  refine ⟨?_, ?_, ?_⟩
  · intro workers schedule hworkers hfinished
    exact runScheduled_eq hworkers hfinished
  · intro cores
    exact runParallel_eq _ cores items
  · intro hcancelled
    obtain ⟨-, -, hcatalog, -, -⟩ := start_eq_ok hstart
    refine ⟨_, run_of_cancelled hcancelled items, rfl, rfl, rfl, ?_, ?_⟩
    · change pass.catalog = { Catalog.empty with applicationParts := pass.catalog.applicationParts }
      rw [hcatalog]
      exact Catalog.ofParts_eq _
    · intro part
      change part ∈ pass.catalog.applicationParts ↔ _
      rw [hcatalog]
      exact Catalog.mem_applicationParts_ofParts _ part

/-- The first of two workers takes the first item and waits while the other does all the rest. -/
theorem report_of_crew_overtaken :
    ((Crew.start .fresh 2).follow Sample.pass.extract Sample.items.toArray
        ([0, 0] ++ List.replicate 18 1 ++ [0, 0, 0, 0])).isFinished = true ∧
      (Sample.pass.withToken .fresh).runScheduled 2 ([0, 0] ++ List.replicate 18 1 ++ [0, 0, 0, 0])
          Sample.items = (Sample.pass.withToken .fresh).run Sample.items ∧
      CancelToken.fresh.cancel.isCancelled = true ∧
      ∃ report, (Sample.pass.withToken CancelToken.fresh.cancel).run Sample.items = .ok report ∧
        report.processed = 0 ∧
        ∀ part, part ∈ report.catalog.applicationParts ↔ part = "Orders" := by
  have hfinished : ((Crew.start .fresh 2).follow Sample.pass.extract Sample.items.toArray
      ([0, 0] ++ List.replicate 18 1 ++ [0, 0, 0, 0])).isFinished = true := by
    decide +kernel
  obtain ⟨report, hrun, hprocessed, -, -, -, hparts⟩ :=
    (report_of_crew Sample.start_program CancelToken.fresh.cancel Sample.items).2.2 rfl
  refine ⟨hfinished, ?_, rfl, report, hrun, hprocessed, ?_⟩
  · exact (report_of_crew Sample.start_program .fresh Sample.items).1 2 _ (by decide) hfinished
  · intro part
    rw [hparts, Sample.config, List.mem_singleton]

end Pass

end TypeMetadata
