import Dashwright.Proofs.Jobs.Partition
import Mathlib.Data.List.Perm.Subperm

/-! Targets stay within their limits.

The dispatcher takes a job from the queue, asks whether the job's target accepts it, and starts
the job's work right after the answer is yes; in between, only running work may complete. Asking
updates every target first, so every job whose work has started stands on its target's running
list when the answer is read, and the answer is yes only while that list is shorter than the
limit. Starting the job then adds at most one job under way. Along every run that keeps this
discipline, no target has more tracked jobs under way than its limit. -/

namespace Dashwright.Jobs

/-- Whether an event gives a job's work a pending future. -/
def Event.starts : Event → Bool
  | .start _ => true
  | _ => false

/-- The job that an answer to the acceptance question lets the dispatcher start: the job asked
about, when the answer is yes. -/
def grantOf (answer : Outcome Bool) (i : Nat) : Option Nat :=
  match answer with
  | .ok true => some i
  | _ => none

theorem grantOf_eq_some {answer : Outcome Bool} {i g : Nat} (granted : grantOf answer i = some g) :
    answer = .ok true ∧ i = g := by
  cases answer with
  | error e => cases granted
  | ok yes =>
    cases yes with
    | false => cases granted
    | true => exact ⟨rfl, Option.some.inj granted⟩

/-- The runs that keep the dispatcher's discipline, with the job the dispatcher may start next:
no job's work is under way at first, and a job's work is started only when the job is tracked
and its target has just accepted it, with only completions of work in between. -/
inductive Dispatch (jobs : List Job) : Tracker → List Nat → Option Nat → Prop
  | start (idle : ∀ j ∈ jobs, j.isRunning = false) : Dispatch jobs (Tracker.start jobs) [] none
  | accept {s : Tracker} {tracked : List Nat} {granted : Option Nat} (i : Nat) :
      Dispatch jobs s tracked granted → i < s.jobs.size →
      Dispatch jobs ((Event.accepting i).after s) tracked (grantOf ((isAcceptingJob i).exec s).1 i)
  | begin {s : Tracker} {tracked : List Nat} (i : Nat) :
      Dispatch jobs s tracked (some i) → (Event.start i).Allowed s tracked → i ∈ tracked →
      Dispatch jobs ((Event.start i).after s) tracked none
  | finish {s : Tracker} {tracked : List Nat} {granted : Option Nat} (i : Nat) :
      Dispatch jobs s tracked granted → (Event.finish i).Allowed s tracked →
      Dispatch jobs ((Event.finish i).after s) tracked granted
  | other {s : Tracker} {tracked : List Nat} {granted : Option Nat} (e : Event) :
      Dispatch jobs s tracked granted → e.Allowed s tracked → e.starts = false →
      Dispatch jobs (e.after s) (e.tracks tracked) none

/-- The number of tracked jobs of a target's name whose work is under way. -/
def pendingCount (s : Tracker) (tracked : List Nat) (name : Value) : Nat :=
  tracked.countP fun i => Value.equal (s.job i).target name && (s.job i).isRunning

/-- Every target's limit is a count, and no more of the target's tracked jobs are under way. -/
def WithinLimits (s : Tracker) (tracked : List Nat) : Prop :=
  ∀ t ∈ s.limits, ∃ n : Nat, t.limit = .int n ∧ pendingCount s tracked t.name ≤ n

/-- What a run that keeps the discipline maintains: pool sizes are counts, untracked work has
not started, every target is within its limit, and a job the dispatcher may start has room on
its target. -/
structure Capacity (s : Tracker) (tracked : List Nat) (granted : Option Nat) : Prop where
  sizes : ∀ i < s.jobs.size, ∀ p, (s.job i).poolSize = some p → ∃ n : Nat, p = .int n
  idle : ∀ i, i ∉ tracked → (s.job i).isRunning = false
  within : WithinLimits s tracked
  room : ∀ g, granted = some g → ∀ t ∈ s.limits, t.name = (s.job g).target →
    ∀ n : Nat, t.limit = .int n → pendingCount s tracked t.name < n

theorem room_answer (n k : Nat) :
    (do Value.compareWith .gt (← Value.sub (.int n) (.int k)) (.int 0) : Outcome Bool) =
      pure (decide (k < n)) := by
  simp [Value.sub, Value.complexPair?, Value.numeric?, Value.numericOp, Value.compareWith,
    Value.compareWith.go, Value.compareNumeric, Value.Comparison.holds]
  congr 1
  apply Bool.eq_iff_iff.mpr
  rw [beq_iff_eq, Int.compare_eq_gt, decide_eq_true_iff]
  omega

section Counting

variable {s : Tracker} {tracked : List Nat}

theorem pendingCount_congr {s' : Tracker} (same : s'.jobs = s.jobs) (tracked : List Nat) (name : Value) :
    pendingCount s' tracked name = pendingCount s tracked name := by
  simp only [pendingCount, Tracker.job, same]

theorem pendingCount_track {i : Nat} (idle : (s.job i).isRunning = false) (name : Value) :
    pendingCount s (tracked ++ [i]) name = pendingCount s tracked name := by
  simp [pendingCount, List.countP_append, idle]

theorem pendingCount_stop {i : Nat} {p : Progress} (valid : i < s.jobs.size)
    (stops : ({ s.job i with future := some p } : Job).isRunning = false) (name : Value) :
    pendingCount (s.setFuture i p) tracked name ≤ pendingCount s tracked name := by
  refine List.countP_mono_left fun k _ counted => ?_
  rw [setFuture_job p valid k] at counted
  split at counted
  · rw [stops, Bool.and_false] at counted
    cases counted
  · exact counted

theorem pendingCount_start {g : Nat} (distinct : tracked.Nodup) (valid : g < s.jobs.size) (name : Value) :
    pendingCount (s.setFuture g .pending) tracked name ≤
      pendingCount s tracked name + if Value.equal (s.job g).target name then 1 else 0 := by
  split
  · rename_i same_target
    -- the jobs counted after the start are those counted before and the started one
    have within : (tracked.filter fun k => Value.equal ((s.setFuture g .pending).job k).target name &&
        ((s.setFuture g .pending).job k).isRunning) ⊆
        g :: tracked.filter fun k => Value.equal (s.job k).target name && (s.job k).isRunning := by
      intro k member
      rw [List.mem_filter, setFuture_job .pending valid k] at member
      split at member
      · rename_i started
        rw [started]
        exact List.mem_cons_self
      · exact List.mem_cons_of_mem g (List.mem_filter.mpr member)
    have counted := (List.subperm_of_subset (distinct.filter _) within).length_le
    rw [List.length_cons] at counted
    simpa only [pendingCount, List.countP_eq_length_filter] using counted
  · rename_i other_target
    refine List.countP_mono_left fun k _ counted => ?_
    rw [setFuture_job .pending valid k] at counted
    split at counted
    · rename_i started
      subst started
      rw [Bool.and_eq_true] at counted
      exact absurd counted.1 other_target
    · exact counted

theorem pendingCount_eq_running (inv : Partition s tracked) (settled : Settled s [])
    {t : TargetLimit} (inside : t ∈ s.limits) : pendingCount s tracked t.name = t.running.length := by
  have running_nodup : t.running.Nodup :=
    List.Nodup.sublist ((List.sublist_append_right t.enqueued t.running).trans
      (List.sublist_append_left _ t.done)) (inv.nodup t inside)
  rw [pendingCount, List.countP_eq_length_filter]
  apply List.Perm.length_eq
  refine (List.perm_ext_iff_of_nodup (inv.distinct.filter _) running_nodup).mpr fun k => ?_
  rw [List.mem_filter, (inv.lists settled inside k).2.1, inv.members t inside k, Bool.and_eq_true]
  constructor
  · rintro ⟨tracked_k, same, busy⟩
    obtain ⟨_, a, text⟩ := inv.named k (inv.valid k tracked_k)
    rw [text, Value.text_equal_iff] at same
    exact ⟨⟨tracked_k, text.trans same⟩, busy, List.not_mem_nil⟩
  · rintro ⟨⟨tracked_k, same⟩, busy, _⟩
    obtain ⟨_, a, text⟩ := inv.named k (inv.valid k tracked_k)
    refine ⟨tracked_k, ?_, busy⟩
    rw [← same, text]
    exact (Value.text_equal_iff a _).mpr rfl

end Counting

/-- The targets of a tracker keep the names and limits of targets of another. -/
def Tracker.KeepsLimits (s s' : Tracker) : Prop :=
  ∀ t' ∈ s'.limits, ∃ t ∈ s.limits, t.name = t'.name ∧ t.limit = t'.limit

section Limits

variable {s : Tracker} {tracked : List Nat}

theorem keepsLimits_updated (s : Tracker) : s.KeepsLimits s.updated := by
  intro t' member
  obtain ⟨t, inside, rfl⟩ := mem_updated_limits member
  exact ⟨t, inside, rfl, rfl⟩

theorem keepsLimits_enqueue (s : Tracker) (i : Nat) (j : Job) : s.KeepsLimits (s.enqueue i j) := by
  intro t' member
  obtain ⟨t, inside, rfl⟩ := List.mem_map.mp member
  split <;> exact ⟨t, inside, rfl, rfl⟩

theorem WithinLimits.transfer {s' : Tracker} {tracked' : List Nat} (within : WithinLimits s tracked)
    (keeps : s.KeepsLimits s') (fewer : ∀ name, pendingCount s' tracked' name ≤ pendingCount s tracked name) :
    WithinLimits s' tracked' := by
  intro t' inside'
  obtain ⟨t, inside, same_name, same_limit⟩ := keeps t' inside'
  obtain ⟨n, limit, bounded⟩ := within t inside
  refine ⟨n, same_limit ▸ limit, ?_⟩
  calc pendingCount s' tracked' t'.name
      ≤ pendingCount s tracked t'.name := fewer _
    _ = pendingCount s tracked t.name := by rw [same_name]
    _ ≤ n := bounded

theorem WithinLimits.withTarget (within : WithinLimits s tracked) (inv : Partition s tracked) {j : Job}
    (size : ∀ p, j.poolSize = some p → ∃ n : Nat, p = .int n) :
    WithinLimits (s.withTarget j) tracked := by
  unfold Tracker.withTarget
  split
  · exact within
  · rename_i unknown
    have none_counted : pendingCount s tracked j.target = 0 := by
      refine List.countP_eq_zero.mpr fun k tracked_k counted => unknown ?_
      rw [Bool.and_eq_true] at counted
      obtain ⟨t, inside, same⟩ := inv.covered k tracked_k
      refine List.any_eq_true.mpr ⟨t, inside, ?_⟩
      rw [same]
      exact counted.1
    intro t' member
    rcases List.mem_append.mp member with old | new
    · exact within t' old
    · rw [List.mem_singleton.mp new]
      have limit : ∃ n : Nat, j.poolSize.getD (.int 1) = .int n := by
        cases pool : j.poolSize with
        | none => exact ⟨1, rfl⟩
        | some p => exact size p pool
      obtain ⟨n, limit⟩ := limit
      exact ⟨n, limit, le_of_eq_of_le none_counted (Nat.zero_le n)⟩

end Limits

theorem job_congr {s s' : Tracker} (same : s'.jobs = s.jobs) (i : Nat) : s'.job i = s.job i := by
  unfold Tracker.job
  rw [same]

theorem setFuture_poolSize {s : Tracker} {i : Nat} (p : Progress) (valid : i < s.jobs.size) (k : Nat) :
    ((s.setFuture i p).job k).poolSize = (s.job k).poolSize := by
  rw [setFuture_job p valid k]
  split
  · rename_i same
    rw [same]
  · rfl

section Steps

variable {s : Tracker} {tracked : List Nat} {granted : Option Nat}

theorem Capacity.clear (cap : Capacity s tracked granted) : Capacity s tracked none :=
  ⟨cap.sizes, cap.idle, cap.within, fun _ cleared => nomatch cleared⟩

theorem Capacity.keep {s' : Tracker} (cap : Capacity s tracked granted) (same : s'.jobs = s.jobs)
    (within : WithinLimits s' tracked) : Capacity s' tracked none where
  sizes i valid := by
    rw [job_congr same]
    exact cap.sizes i (same ▸ valid)
  idle i untracked := by
    rw [job_congr same]
    exact cap.idle i untracked
  within := within
  room _ cleared := nomatch cleared

theorem Capacity.keepLimits {s' : Tracker} (cap : Capacity s tracked granted) (same : s'.jobs = s.jobs)
    (keeps : s.KeepsLimits s') : Capacity s' tracked none :=
  cap.keep same (cap.within.transfer keeps fun name => Nat.le_of_eq (pendingCount_congr same tracked name))

theorem Capacity.updated (cap : Capacity s tracked granted) : Capacity s.updated tracked none :=
  cap.keepLimits (updated_jobs s) (keepsLimits_updated s)

theorem Capacity.withQueue (cap : Capacity s tracked granted) (queue : List Nat) :
    Capacity { s with queue := queue } tracked none :=
  cap.keepLimits rfl fun t inside => ⟨t, inside, rfl, rfl⟩

theorem Capacity.sizes_setFuture (cap : Capacity s tracked granted) {i : Nat} (p : Progress)
    (valid : i < s.jobs.size) :
    ∀ k < (s.setFuture i p).jobs.size, ∀ q, ((s.setFuture i p).job k).poolSize = some q →
      ∃ n : Nat, q = .int n := by
  intro k bound
  rw [setFuture_poolSize p valid k]
  exact cap.sizes k (by rwa [setFuture_size] at bound)

theorem Capacity.stop (cap : Capacity s tracked granted) {i : Nat} {p : Progress}
    (valid : i < s.jobs.size) (stops : ({ s.job i with future := some p } : Job).isRunning = false) :
    Capacity (s.setFuture i p) tracked granted where
  sizes := cap.sizes_setFuture p valid
  idle k untracked := by
    rw [setFuture_job p valid k]
    split
    · exact stops
    · exact cap.idle k untracked
  within := cap.within.transfer (fun t' inside => ⟨t', inside, rfl, rfl⟩) fun name =>
    pendingCount_stop valid stops name
  room g granted t inside same n limit := by
    rw [(setFuture_target p valid g).1] at same
    exact Nat.lt_of_le_of_lt (pendingCount_stop valid stops t.name) (cap.room g granted t inside same n limit)

theorem Capacity.begin {g : Nat} (cap : Capacity s tracked (some g)) (inv : Partition s tracked)
    (valid : g < s.jobs.size) (tracked_g : g ∈ tracked) :
    Capacity (s.setFuture g .pending) tracked none where
  sizes := cap.sizes_setFuture .pending valid
  idle k untracked := by
    have other : k ≠ g := fun same => untracked (same ▸ tracked_g)
    rw [setFuture_job .pending valid k, if_neg other]
    exact cap.idle k untracked
  within t inside := by
    obtain ⟨n, limit, bounded⟩ := cap.within t inside
    refine ⟨n, limit, Nat.le_trans (pendingCount_start inv.distinct valid t.name) ?_⟩
    split
    · rename_i same_target
      -- the started job's target had room when it was accepted
      obtain ⟨_, a, text⟩ := inv.named g valid
      rw [text, Value.text_equal_iff] at same_target
      have room := cap.room g rfl t inside (text.trans same_target).symm n limit
      omega
    · omega
  room _ cleared := nomatch cleared

theorem Capacity.updatedTarget (cap : Capacity s tracked granted) (inv : Partition s tracked)
    {i : Nat} (valid : i < s.jobs.size) :
    Capacity ((s.withTarget (s.job i)).updated) tracked none :=
  cap.keep (withTarget_jobs s _) ((cap.within.withTarget inv (cap.sizes i valid)).transfer
    (keepsLimits_updated _) fun name => Nat.le_of_eq (pendingCount_congr (updated_jobs _) tracked name))

theorem Capacity.track (cap : Capacity s tracked granted) (inv : Partition s tracked) {i : Nat}
    (valid : i < s.jobs.size) (fresh : i ∉ tracked) :
    Capacity ((Event.track i).after s) (tracked ++ [i]) none := by
  have cap1 := cap.updatedTarget inv valid
  have idle : (((s.withTarget (s.job i)).updated).job i).isRunning = false := by
    rw [same_job]
    exact cap.idle i fresh
  have same : (((s.withTarget (s.job i)).updated).enqueue i
      (((s.withTarget (s.job i)).updated).job i)).jobs = ((s.withTarget (s.job i)).updated).jobs := rfl
  rw [track_after valid]
  refine ⟨cap1.sizes, fun k untracked => cap1.idle k fun tracked_k => untracked
    (List.mem_append_left _ tracked_k), cap1.within.transfer (keepsLimits_enqueue _ _ _) fun name => ?_,
    fun _ cleared => nomatch cleared⟩
  exact Nat.le_of_eq ((pendingCount_congr same _ name).trans (pendingCount_track idle name))

theorem Capacity.accept (cap : Capacity s tracked granted) (inv : Partition s tracked) {i : Nat}
    (valid : i < s.jobs.size) :
    Capacity ((Event.accepting i).after s) tracked (grantOf ((isAcceptingJob i).exec s).1 i) := by
  obtain ⟨_, a, text⟩ := inv.named i valid
  have inv1 := (inv.withTarget text).updated
  have cap1 := cap.updatedTarget inv valid
  rw [accepting_after inv valid]
  refine ⟨cap1.sizes, cap1.idle, cap1.within, fun g granted t inside same n limit => ?_⟩
  obtain ⟨answered, rfl⟩ := grantOf_eq_some granted
  rw [same_job] at same
  have hit : Value.equal t.name (s.job i).target = true := by
    rw [same, text]
    exact (Value.text_equal_iff a _).mpr rfl
  -- the question reads the one target of the job's target name
  cases found : ((s.withTarget (s.job i)).updated).limits.find?
      (fun u => Value.equal u.name (s.job i).target) with
  | none => exact absurd hit (List.find?_eq_none.mp found t inside)
  | some t0 =>
    obtain rfl := inv1.find?_target text inside hit found
    rw [isAcceptingJob_exec valid found, update_of_mem_updatedTarget inside, limit] at answered
    rw [pendingCount_eq_running inv1 (settled_updated _) inside]
    exact of_decide_eq_true (Except.ok.inj ((room_answer n _).symm.trans answered))

theorem Capacity.other (cap : Capacity s tracked granted) (inv : Partition s tracked) (e : Event)
    (allowed : e.Allowed s tracked) (calm : e.starts = false) :
    Capacity (e.after s) (e.tracks tracked) none := by
  cases e with
  | track i => exact cap.track inv allowed.1 allowed.2
  | accepting i => exact (cap.accept inv allowed).clear
  | enqueued name =>
    simp only [Event.after, isJobNameEnqueued_exec]
    exact cap.updated
  | doneName name =>
    simp only [Event.after, isJobNameDone_exec]
    exact cap.updated
  | isDone =>
    rw [isDone_after]
    exact cap.updated
  | next =>
    simp only [Event.after, nextJob_after]
    exact cap.updated.withQueue _
  | returnJob i =>
    simp only [Event.after, returnToQueue_exec]
    exact cap.withQueue _
  | start i => cases calm
  | finish i =>
    simp only [Event.after, finishJob_after allowed]
    split
    · exact (cap.stop allowed rfl).clear
    · exact cap.clear
  | cache i =>
    simp only [Event.after, cacheJob_exec allowed]
    exact (cap.stop allowed rfl).clear

end Steps

theorem Capacity.start {jobs : List Job}
    (sizes : ∀ j ∈ jobs, ∀ p, j.poolSize = some p → ∃ n : Nat, p = .int n)
    (idle : ∀ j ∈ jobs, j.isRunning = false) : Capacity (Tracker.start jobs) [] none where
  sizes i valid := sizes _ (start_job_mem valid)
  idle i _ := by
    by_cases valid : i < (Tracker.start jobs).jobs.size
    · exact idle _ (start_job_mem valid)
    · have bound : jobs.length ≤ i := Nat.le_of_not_lt valid
      simp only [Tracker.job, Tracker.start, Array.getD_eq_getD_getElem?, List.getElem?_toArray,
        List.getElem?_eq_none bound, Option.getD_none]
      rfl
  within _ none := absurd none List.not_mem_nil
  room _ cleared := nomatch cleared

theorem Dispatch.run {jobs : List Job} {s : Tracker} {tracked : List Nat} {granted : Option Nat}
    (dispatch : Dispatch jobs s tracked granted) : Run jobs s tracked := by
  induction dispatch with
  | start => exact .start
  | accept i _ valid run => exact .step (.accepting i) run valid
  | begin i _ allowed _ run => exact .step (.start i) run allowed
  | finish i _ allowed run => exact .step (.finish i) run allowed
  | other e _ allowed _ run => exact .step e run allowed

/-- Every state of a run that keeps the dispatcher's discipline has the capacity. -/
theorem Dispatch.capacity {jobs : List Job} (named : ∀ j ∈ jobs, j.Named)
    (sizes : ∀ j ∈ jobs, ∀ p, j.poolSize = some p → ∃ n : Nat, p = .int n) {s : Tracker}
    {tracked : List Nat} {granted : Option Nat} (dispatch : Dispatch jobs s tracked granted) :
    Capacity s tracked granted := by
  induction dispatch with
  | start idle => exact Capacity.start sizes idle
  | accept i earlier valid cap => exact cap.accept (earlier.run.partition named) valid
  | begin i earlier allowed tracked_i cap =>
    simp only [Event.after, startJob_exec allowed.1]
    exact cap.begin (earlier.run.partition named) allowed.1 tracked_i
  | finish i _ allowed cap =>
    simp only [Event.after, finishJob_after allowed]
    split
    · exact cap.stop allowed rfl
    · exact cap
  | other e earlier allowed calm cap => exact cap.other (earlier.run.partition named) e allowed calm

/-- Along every run that keeps the dispatcher's discipline, over jobs the program makes whose
pool sizes are counts, no target has more tracked jobs under way than its limit. -/
theorem Dispatch.within_limits {jobs : List Job} (named : ∀ j ∈ jobs, j.Named)
    (sizes : ∀ j ∈ jobs, ∀ p, j.poolSize = some p → ∃ n : Nat, p = .int n) {s : Tracker}
    {tracked : List Nat} {granted : Option Nat} (dispatch : Dispatch jobs s tracked granted) :
    WithinLimits s tracked :=
  (dispatch.capacity named sizes).within


/-- One job named a on target t, whose pool holds one connection. -/
def poolOfOne : List Job := [⟨.str "a", .str "t", some (.int 1), none⟩]

/-- The job is tracked, accepted and started, and its target stays within its limit. -/
theorem poolOfOne_within_limits :
    (∀ j ∈ poolOfOne, j.Named) ∧
      (∀ j ∈ poolOfOne, ∀ p, j.poolSize = some p → ∃ n : Nat, p = .int n) ∧
      Dispatch poolOfOne ((Event.start 0).after ((Event.accepting 0).after
        ((Event.track 0).after (Tracker.start poolOfOne)))) [0] none ∧
      WithinLimits ((Event.start 0).after ((Event.accepting 0).after
        ((Event.track 0).after (Tracker.start poolOfOne)))) [0] := by
  have named : ∀ j ∈ poolOfOne, j.Named := by
    simp [poolOfOne, Job.Named]
  have sizes : ∀ j ∈ poolOfOne, ∀ p, j.poolSize = some p → ∃ n : Nat, p = .int n := by
    simp only [poolOfOne, List.mem_singleton, forall_eq, Option.some.injEq, forall_eq']
    exact ⟨1, rfl⟩
  have tracking : Dispatch poolOfOne ((Event.track 0).after (Tracker.start poolOfOne)) [0] none :=
    .other (.track 0) (.start (by simp [poolOfOne, Job.isRunning, Job.running?]))
      ⟨by decide, List.not_mem_nil⟩ rfl
  have granted : grantOf ((isAcceptingJob 0).exec
      ((Event.track 0).after (Tracker.start poolOfOne))).1 0 = some 0 := by
    decide +kernel
  have accepted := Dispatch.accept 0 tracking (by decide +kernel)
  rw [granted] at accepted
  have started := Dispatch.begin 0 accepted ⟨by decide +kernel, by decide +kernel⟩
    (List.mem_singleton_self 0)
  exact ⟨named, sizes, started, Dispatch.within_limits named sizes started⟩

end Dashwright.Jobs
