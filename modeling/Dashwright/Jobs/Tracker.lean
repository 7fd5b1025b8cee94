import Dashwright.Value.Arith
import Dashwright.Value.Access
import Dashwright.Jobs.Message

/-!
Tracking jobs against the connection limits of their targets.

Each target gets a limit the first time one of its jobs is seen: the target's connection pool
size when it has one, else one. A tracked job waits in its target's queue of enqueued jobs and
in the shared job queue. Jobs move when the tracker updates: a job whose work is done moves to
the done list, one whose work is under way to the running list, and enqueued jobs that have
started leave the enqueued list. Done jobs stay done. A target accepts a job while fewer jobs
run on it than its limit.

A job's work is a future: none yet, pending, finished, or a cached result that counts as done.
-/

namespace Dashwright.Jobs

/-- Where a job's work stands once it has a future. -/
inductive Progress where
  | pending
  | finished
  | cached
deriving BEq, Inhabited

/-- A job: the name of its item, its target's name, the target's connection pool size when the
target has one, and its future. -/
structure Job where
  name : Value
  target : Value
  poolSize : Option Value
  future : Option Progress
deriving Inhabited

namespace Job

/-- Whether the work is done; nothing when there is no future. -/
def done? (j : Job) : Option Bool := j.future.map (· != .pending)

/-- Whether the work is under way; nothing when there is no future. -/
def running? (j : Job) : Option Bool := j.future.map (· == .pending)

end Job

/-- A target's limit and the jobs enqueued on it, running on it and done on it, by number. -/
structure TargetLimit where
  name : Value
  limit : Value
  enqueued : List Nat
  running : List Nat
  done : List Nat

/-- The tracker: the jobs by number, the targets in the order first seen, and the job queue. -/
structure Tracker where
  jobs : Array Job
  limits : List TargetLimit
  queue : List Nat

abbrev TrackM := ExceptT Failure (StateM Tracker)

def Tracker.start (jobs : List Job) : Tracker := ⟨jobs.toArray, [], []⟩

/-- Moves a target's jobs by the state of their work. -/
def TargetLimit.update (jobs : Array Job) (t : TargetLimit) : TargetLimit :=
  let job (i : Nat) : Job := jobs.getD i default
  let isDone (i : Nat) : Bool := ((job i).done?).getD false
  let isRunning (i : Nat) : Bool := ((job i).running?).getD false
  { t with
    done := t.done ++ t.running.filter isDone ++ t.enqueued.filter isDone
    running := t.running.filter isRunning ++ t.enqueued.filter isRunning
    enqueued := t.enqueued.filter fun i => (job i).future.isNone }

def TargetLimit.isProcessing (t : TargetLimit) : Bool := t.running.length + t.enqueued.length > 0

def jobAt (i : Nat) : TrackM Job := do
  match (← get).jobs[i]? with
  | some j => pure j
  | none => throw (Failure.make .badIndex "list index out of range")

def setJob (i : Nat) (j : Job) : TrackM Unit :=
  modify fun s => { s with jobs := s.jobs.set! i j }

def updateAll : TrackM Unit :=
  modify fun s => { s with limits := s.limits.map (TargetLimit.update s.jobs) }

/-- Adds the target of a job if no target of its name is known. -/
def addTarget (j : Job) : TrackM Unit := do
  let s : Tracker ← get
  if !s.limits.any (fun t => Value.equal t.name j.target) then
    let limit := j.poolSize.getD (.int 1)
    set { s with limits := s.limits ++ [({ name := j.target, limit := limit, enqueued := [], running := [], done := [] } : TargetLimit)] }

/-- Starts tracking a job: it is enqueued on its target and put on the job queue. -/
def trackJob (i : Nat) : TrackM Unit := do
  let j ← jobAt i
  addTarget j
  updateAll
  modify fun s =>
    let hits := s.limits.filter fun t => Value.equal t.name j.target
    { s with
      limits := s.limits.map fun t =>
        if Value.equal t.name j.target then { t with enqueued := t.enqueued ++ [i] } else t
      queue := s.queue ++ hits.map fun _ => i }

/-- Whether a job's target has room for another running job. -/
def isAcceptingJob (i : Nat) : TrackM Bool := do
  let j ← jobAt i
  addTarget j
  updateAll
  let s : Tracker ← get
  match s.limits.find? (fun t => Value.equal t.name j.target) with
  | none => throw (Failure.make .raised "StopIteration")
  | some t =>
    let t := t.update s.jobs
    set { s with limits := s.limits.map fun (u : TargetLimit) => if Value.equal u.name j.target then t else u }
    let room ← Value.sub t.limit (.int t.running.length)
    Value.compareWith .gt room (.int 0)

/-- The names of a list of jobs, once each. -/
def namesOf (jobs : Array Job) (ids : List Nat) : Outcome (List Value) := do
  let mut names : List Value := []
  for i in ids do
    let n := (jobs.getD i default).name
    if !n.hashable then throw (Value.unhashable n)
    if !names.any (Value.equal n) then names := names ++ [n]
  pure names

def trackedNames (s : Tracker) : Outcome (List Value) := do
  let mut names : List Value := []
  for t in s.limits do
    for n in (← namesOf s.jobs (t.enqueued ++ t.running ++ t.done)) do
      if !names.any (Value.equal n) then names := names ++ [n]
  pure names

def doneNames (s : Tracker) : Outcome (List Value) := do
  let mut names : List Value := []
  for t in s.limits do
    for n in (← namesOf s.jobs t.done) do
      if !names.any (Value.equal n) then names := names ++ [n]
  pure names

/-- Whether a name is among some names, which needs it to be hashable. -/
def memberName (name : Value) (names : List Value) : Outcome Bool :=
  if name.hashable then pure (names.any (Value.equal name)) else throw (Value.unhashable name)

/-- A step that may fail, run in the tracker. -/
def fromOutcome {α : Type} (x : Outcome α) : TrackM α :=
  match x with
  | .ok a => pure a
  | .error e => throw e

def isJobNameEnqueued (name : Value) : TrackM Bool := do
  updateAll
  let names ← fromOutcome (trackedNames (← get))
  fromOutcome (memberName name names)

def isJobNameDone (name : Value) : TrackM Bool := do
  updateAll
  let names ← fromOutcome (doneNames (← get))
  fromOutcome (memberName name names)

def isDone : TrackM Bool := do
  updateAll
  let s : Tracker ← get
  let limits := s.limits.map (TargetLimit.update s.jobs)
  set { s with limits := limits }
  pure (!limits.any TargetLimit.isProcessing)

def returnToQueue (i : Nat) : TrackM Unit :=
  modify fun s => { s with queue := s.queue ++ [i] }

def nextJob : TrackM Nat := do
  updateAll
  let s : Tracker ← get
  match s.queue with
  | i :: rest =>
    set { s with queue := rest }
    pure i
  | [] => throw ⟨.queueEmpty, none⟩

def queueEmpty : TrackM Bool := do pure (← get).queue.isEmpty

def startJob (i : Nat) : TrackM Unit := do
  setJob i { (← jobAt i) with future := some .pending }

def finishJob (i : Nat) : TrackM Unit := do
  let j ← jobAt i
  match j.future with
  | none => throw (Failure.make .missingAttribute "'NoneType' object has no attribute 'set_result'")
  | some .cached => throw (Failure.make .missingAttribute "'CachedFuture' object has no attribute 'set_result'")
  | some .finished => throw ⟨.invalidState, none⟩
  | some .pending => setJob i { j with future := some .finished }

def cacheJob (i : Nat) : TrackM Unit := do
  setJob i { (← jobAt i) with future := some .cached }

end Dashwright.Jobs
