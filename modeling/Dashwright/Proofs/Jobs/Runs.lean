import Dashwright.Jobs.Tracker

/-! Runs of the job tracker.

Each operation of the tracker is read as a function on its state: the target of a job added,
every target updated, a job enqueued, a job's future set. A run is a sequence of calls on the
tracker and of changes to the jobs' work between calls, each change of the kind the caller
promises: a tracked job is tracked once, and work that is done is never started again. -/

namespace Dashwright.Jobs

namespace Job

/-- Whether a job's work is done, as a condition reads it: a job with no future is not done. -/
def isDone (j : Job) : Bool := j.done?.getD false

def isRunning (j : Job) : Bool := j.running?.getD false

def isWaiting (j : Job) : Bool := j.future.isNone

/-- A job as the program makes them: its name and its target's name are texts. -/
def Named (j : Job) : Prop := (∃ n, j.name = .str n) ∧ ∃ a, j.target = .str a

theorem status (j : Job) :
    (j.isWaiting = true ∧ j.isRunning = false ∧ j.isDone = false) ∨
    (j.isWaiting = false ∧ j.isRunning = true ∧ j.isDone = false) ∨
    (j.isWaiting = false ∧ j.isRunning = false ∧ j.isDone = true) := by
  rcases j with ⟨name, target, pool, _ | _ | _ | _⟩
  · exact .inl ⟨rfl, rfl, rfl⟩
  · exact .inr (.inl ⟨rfl, rfl, rfl⟩)
  · exact .inr (.inr ⟨rfl, rfl, rfl⟩)
  · exact .inr (.inr ⟨rfl, rfl, rfl⟩)

theorem isRunning_of_isWaiting {j : Job} (waiting : j.isWaiting = true) : j.isRunning = false := by
  rcases j.status with ⟨_, r, _⟩ | ⟨w, _, _⟩ | ⟨w, _, _⟩ <;> simp_all

theorem isDone_of_isWaiting {j : Job} (waiting : j.isWaiting = true) : j.isDone = false := by
  rcases j.status with ⟨_, _, d⟩ | ⟨w, _, _⟩ | ⟨w, _, _⟩ <;> simp_all

theorem isDone_of_isRunning {j : Job} (running : j.isRunning = true) : j.isDone = false := by
  rcases j.status with ⟨_, r, _⟩ | ⟨_, _, d⟩ | ⟨_, r, _⟩ <;> simp_all

end Job

/-- The job with a number, as the target lists read it; a missing one is the default job. -/
def Tracker.job (s : Tracker) (i : Nat) : Job := s.jobs.getD i default

/-- Runs a tracker operation from a state: its answer and the state after it. -/
def TrackM.exec {α : Type} (x : TrackM α) (s : Tracker) : Outcome α × Tracker := x.run.run s

section Exec

variable {α β : Type}

theorem exec_bind (x : TrackM α) (f : α → TrackM β) (s : Tracker) :
    (x >>= f).exec s = match x.exec s with
      | (.ok a, s') => (f a).exec s'
      | (.error e, s') => (.error e, s') := by
  simp only [TrackM.exec, ExceptT.run_bind, StateT.run_bind]
  rcases x.run.run s with ⟨_ | a, s'⟩ <;> rfl

@[simp] theorem exec_get (s : Tracker) : (get : TrackM Tracker).exec s = (.ok s, s) := rfl

@[simp] theorem exec_set (s s' : Tracker) : (set s' : TrackM Unit).exec s = (.ok (), s') := rfl

@[simp] theorem exec_modify (f : Tracker → Tracker) (s : Tracker) :
    (modify f : TrackM Unit).exec s = (.ok (), f s) := rfl

@[simp] theorem exec_pure (a : α) (s : Tracker) : (pure a : TrackM α).exec s = (.ok a, s) := rfl

@[simp] theorem exec_throw (e : Failure) (s : Tracker) :
    (throw e : TrackM α).exec s = (.error e, s) := rfl

@[simp] theorem exec_liftM (o : Outcome α) (s : Tracker) : (liftM o : TrackM α).exec s = (o, s) := rfl

@[simp] theorem exec_fromOutcome (o : Outcome α) (s : Tracker) : (fromOutcome o).exec s = (o, s) := by
  cases o <;> rfl

end Exec

/-- The tracker once a job's target is known: a new target, when no target of its name is
known, is added last with the job's pool size as its limit, else one. -/
def Tracker.withTarget (s : Tracker) (j : Job) : Tracker :=
  if s.limits.any (fun t => Value.equal t.name j.target) then s
  else { s with limits := s.limits ++ [⟨j.target, j.poolSize.getD (.int 1), [], [], []⟩] }

def Tracker.updated (s : Tracker) : Tracker :=
  { s with limits := s.limits.map (TargetLimit.update s.jobs) }

/-- The tracker once a job is enqueued on every target of its target's name and put on the job
queue once for each. -/
def Tracker.enqueue (s : Tracker) (i : Nat) (j : Job) : Tracker :=
  { s with
    limits := s.limits.map fun t =>
      if Value.equal t.name j.target then { t with enqueued := t.enqueued ++ [i] } else t
    queue := s.queue ++ (s.limits.filter fun t => Value.equal t.name j.target).map fun _ => i }

def Tracker.setFuture (s : Tracker) (i : Nat) (p : Progress) : Tracker :=
  { s with jobs := s.jobs.set! i { s.job i with future := some p } }

@[simp] theorem withTarget_jobs (s : Tracker) (j : Job) : (s.withTarget j).jobs = s.jobs := by
  unfold Tracker.withTarget
  split <;> rfl

@[simp] theorem updated_jobs (s : Tracker) : s.updated.jobs = s.jobs := rfl

@[simp] theorem updated_queue (s : Tracker) : s.updated.queue = s.queue := rfl

theorem jobAt_exec {s : Tracker} {i : Nat} (valid : i < s.jobs.size) :
    (jobAt i).exec s = (.ok (s.job i), s) := by
  simp [jobAt, exec_bind, valid, Tracker.job]

theorem addTarget_exec (s : Tracker) (j : Job) : (addTarget j).exec s = (.ok (), s.withTarget j) := by
  unfold addTarget Tracker.withTarget
  cases known : s.limits.any (fun t => Value.equal t.name j.target) <;>
    simp only [exec_bind, exec_get, known, Bool.not_false, Bool.not_true, if_true, exec_set] <;> rfl

theorem updateAll_exec (s : Tracker) : updateAll.exec s = (.ok (), s.updated) := rfl

theorem trackJob_exec {s : Tracker} {i : Nat} (valid : i < s.jobs.size) :
    (trackJob i).exec s = (.ok (), ((s.withTarget (s.job i)).updated).enqueue i (s.job i)) := by
  simp only [trackJob, exec_bind, jobAt_exec valid, addTarget_exec, updateAll_exec, exec_modify]
  rfl

theorem isAcceptingJob_exec {s : Tracker} {i : Nat} (valid : i < s.jobs.size) {t : TargetLimit}
    (found : ((s.withTarget (s.job i)).updated).limits.find?
      (fun u => Value.equal u.name (s.job i).target) = some t) :
    (isAcceptingJob i).exec s =
      (do Value.compareWith .gt (← Value.sub (t.update s.jobs).limit
          (.int (t.update s.jobs).running.length)) (.int 0),
        { (s.withTarget (s.job i)).updated with
          limits := ((s.withTarget (s.job i)).updated).limits.map fun u =>
            if Value.equal u.name (s.job i).target then t.update s.jobs else u }) := by
  simp only [isAcceptingJob, exec_bind, jobAt_exec valid, addTarget_exec, updateAll_exec, exec_get,
    found, exec_set, exec_liftM, withTarget_jobs, updated_jobs]
  cases Value.sub (t.update s.jobs).limit (.int (t.update s.jobs).running.length) <;> rfl

theorem isJobNameEnqueued_exec (s : Tracker) (name : Value) :
    (isJobNameEnqueued name).exec s = (trackedNames s.updated >>= memberName name, s.updated) := by
  simp only [isJobNameEnqueued, exec_bind, updateAll_exec, exec_get, exec_fromOutcome]
  cases trackedNames s.updated <;> rfl

theorem isJobNameDone_exec (s : Tracker) (name : Value) :
    (isJobNameDone name).exec s = (doneNames s.updated >>= memberName name, s.updated) := by
  simp only [isJobNameDone, exec_bind, updateAll_exec, exec_get, exec_fromOutcome]
  cases doneNames s.updated <;> rfl

theorem isDone_exec (s : Tracker) :
    isDone.exec s = (.ok (!(s.updated.limits.map (TargetLimit.update s.jobs)).any TargetLimit.isProcessing),
      { s.updated with limits := s.updated.limits.map (TargetLimit.update s.jobs) }) := by
  simp only [isDone, exec_bind, updateAll_exec, exec_get, exec_set, exec_pure, updated_jobs]

theorem nextJob_after (s : Tracker) : (nextJob.exec s).2 = { s.updated with queue := s.queue.tail } := by
  rcases s with ⟨jobs, limits, _ | ⟨i, rest⟩⟩ <;> rfl

theorem returnToQueue_exec (s : Tracker) (i : Nat) :
    (returnToQueue i).exec s = (.ok (), { s with queue := s.queue ++ [i] }) := rfl

theorem startJob_exec {s : Tracker} {i : Nat} (valid : i < s.jobs.size) :
    (startJob i).exec s = (.ok (), s.setFuture i .pending) := by
  simp only [startJob, setJob, exec_bind, jobAt_exec valid, exec_modify]
  rfl

theorem cacheJob_exec {s : Tracker} {i : Nat} (valid : i < s.jobs.size) :
    (cacheJob i).exec s = (.ok (), s.setFuture i .cached) := by
  simp only [cacheJob, setJob, exec_bind, jobAt_exec valid, exec_modify]
  rfl

theorem finishJob_after {s : Tracker} {i : Nat} (valid : i < s.jobs.size) :
    ((finishJob i).exec s).2 =
      match (s.job i).future with
      | some .pending => s.setFuture i .finished
      | _ => s := by
  simp only [finishJob, exec_bind, jobAt_exec valid]
  rcases (s.job i).future with _ | _ | _ | _ <;> rfl

/-- A call on the tracker, or a change to a job's work between calls. -/
inductive Event where
  | track (i : Nat)
  | accepting (i : Nat)
  | enqueued (name : Value)
  | doneName (name : Value)
  | isDone
  | next
  | returnJob (i : Nat)
  /-- the job's work gets a pending future -/
  | start (i : Nat)
  /-- the job's pending future completes -/
  | finish (i : Nat)
  /-- the job's work gets a cached result -/
  | cache (i : Nat)

/-- The tracker after an event, whatever the event answers. -/
def Event.after (s : Tracker) : Event → Tracker
  | .track i => ((trackJob i).exec s).2
  | .accepting i => ((isAcceptingJob i).exec s).2
  | .enqueued name => ((isJobNameEnqueued name).exec s).2
  | .doneName name => ((isJobNameDone name).exec s).2
  | .isDone => (Jobs.isDone.exec s).2
  | .next => (nextJob.exec s).2
  | .returnJob i => ((returnToQueue i).exec s).2
  | .start i => ((startJob i).exec s).2
  | .finish i => ((finishJob i).exec s).2
  | .cache i => ((cacheJob i).exec s).2

def Event.Updates : Event → Prop
  | .track _ | .accepting _ | .enqueued _ | .doneName _ | .isDone | .next => True
  | .returnJob _ | .start _ | .finish _ | .cache _ => False

/-- What the caller promises of an event: the jobs it names exist, a job is tracked at most
once, and work that is done is never started again. -/
def Event.Allowed (s : Tracker) (tracked : List Nat) : Event → Prop
  | .track i => i < s.jobs.size ∧ i ∉ tracked
  | .start i => i < s.jobs.size ∧ (s.job i).isDone = false
  | .accepting i | .returnJob i | .finish i | .cache i => i < s.jobs.size
  | .enqueued _ | .doneName _ | .isDone | .next => True

/-- The job that an event starts tracking, if it is a call to track one. -/
def Event.fresh : Event → List Nat
  | .track i => [i]
  | _ => []

def Event.tracks (tracked : List Nat) : Event → List Nat
  | .track i => tracked ++ [i]
  | _ => tracked

/-- The states of a tracker over some jobs that a run of allowed events reaches, with the jobs
tracked on the way. -/
inductive Run (jobs : List Job) : Tracker → List Nat → Prop
  | start : Run jobs (Tracker.start jobs) []
  | step {s : Tracker} {tracked : List Nat} (e : Event) :
      Run jobs s tracked → e.Allowed s tracked → Run jobs (e.after s) (e.tracks tracked)

end Dashwright.Jobs
