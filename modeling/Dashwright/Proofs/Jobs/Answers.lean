import Dashwright.Proofs.Jobs.Partition
import Dashwright.Proofs.Loops

/-! What the tracker's questions answer.

The questions on names collect the names of the jobs on some list of every target, each name
once, and look a name up among them; the question whether the tracker is done reads whether any
target has jobs enqueued or running. Read through the partition of the tracked jobs, they answer
for the tracked jobs themselves: whether one of them has a name, whether one of a name is done,
whether all of them are done. -/

namespace Dashwright.Jobs

/-- Adds a name to a list of names unless an equal one is there. -/
def addName (names : List Value) (n : Value) : List Value :=
  if names.any (Value.equal n) then names else names ++ [n]

/-- The names of the jobs on one list of every target, each name once, as both questions on
names collect them. -/
def collectNames (jobs : Array Job) (limits : List TargetLimit) (select : TargetLimit → List Nat) :
    Outcome (List Value) := do
  let mut names : List Value := []
  for t in limits do
    for n in (← namesOf jobs (select t)) do
      if !names.any (Value.equal n) then names := names ++ [n]
  pure names

theorem trackedNames_eq (s : Tracker) :
    trackedNames s = collectNames s.jobs s.limits TargetLimit.members := rfl

theorem doneNames_eq (s : Tracker) : doneNames s = collectNames s.jobs s.limits TargetLimit.done := rfl

def Texts (names : List Value) : Prop := ∀ n ∈ names, ∃ a, n = .str a

section Loops

theorem addName_yield (names : List Value) (n : Value) :
    (if (!names.any (Value.equal n)) = true then pure (ForInStep.yield (names ++ [n]))
      else pure (ForInStep.yield names) : Outcome (ForInStep (List Value))) =
      pure (.yield (addName names n)) := by
  by_cases seen : names.any (Value.equal n) = true <;> simp [addName, seen]

theorem namesOf_texts (jobs : Array Job) (ids : List Nat)
    (texts : ∀ i ∈ ids, ∃ a, (jobs.getD i default).name = .str a) :
    namesOf jobs ids = pure ((ids.map fun i => (jobs.getD i default).name).foldl addName []) := by
  unfold namesOf
  dsimp only
  rw [forIn_yield (fun names i => addName names (jobs.getD i default).name), List.foldl_map,
    bind_pure]
  intro i member names
  -- a text is hashable, so the loop never throws
  obtain ⟨a, text⟩ := texts i member
  simp only [text, Value.hashable, Bool.not_true, Bool.false_eq_true, if_false]
  exact addName_yield names _

theorem collectNames_texts (jobs : Array Job) (limits : List TargetLimit)
    (select : TargetLimit → List Nat)
    (texts : ∀ t ∈ limits, ∀ i ∈ select t, ∃ a, (jobs.getD i default).name = .str a) :
    collectNames jobs limits select = pure ((limits.flatMap fun t =>
      ((select t).map fun i => (jobs.getD i default).name).foldl addName []).foldl addName []) := by
  unfold collectNames
  dsimp only
  rw [forIn_yield (fun names t =>
      (((select t).map fun i => (jobs.getD i default).name).foldl addName []).foldl addName names),
    List.foldl_flatMap, bind_pure]
  intro t member names
  rw [namesOf_texts jobs (select t) (texts t member), pure_bind,
    forIn_yield addName _ _ _ (fun n _ b => addName_yield b n), pure_bind]

end Loops

section Names

theorem any_equal_iff {names : List Value} (texts : Texts names) (x : Value) :
    names.any (Value.equal x) = true ↔ x ∈ names := by
  rw [List.any_eq_true]
  constructor
  · rintro ⟨n, member, same⟩
    obtain ⟨a, rfl⟩ := texts n member
    rw [(Value.equal_text_iff x a).mp same]
    exact member
  · intro member
    obtain ⟨a, rfl⟩ := texts x member
    exact ⟨_, member, (Value.equal_text_iff _ a).mpr rfl⟩

theorem mem_addName {names : List Value} (texts : Texts names) (n x : Value) :
    x ∈ addName names n ↔ x ∈ names ∨ x = n := by
  unfold addName
  by_cases seen : names.any (Value.equal n) = true
  · rw [if_pos seen]
    have known := (any_equal_iff texts n).mp seen
    constructor
    · exact .inl
    · rintro (member | rfl)
      · exact member
      · exact known
  · rw [if_neg seen, List.mem_append, List.mem_singleton]

theorem mem_foldl_addName (ns : List Value) {names : List Value} (texts : Texts names)
    (texts_ns : Texts ns) (x : Value) : x ∈ ns.foldl addName names ↔ x ∈ names ∨ x ∈ ns := by
  induction ns generalizing names with
  | nil => simp
  | cons n rest ih =>
    have texts' : Texts (addName names n) := fun y member => by
      rcases (mem_addName texts n y).mp member with old | rfl
      · exact texts y old
      · exact texts_ns y List.mem_cons_self
    rw [List.foldl_cons, ih texts' fun y member => texts_ns y (List.mem_cons_of_mem n member),
      mem_addName texts, List.mem_cons]
    tauto

theorem mem_foldl_addName_nil {ns : List Value} (texts_ns : Texts ns) (x : Value) :
    x ∈ ns.foldl addName [] ↔ x ∈ ns := by
  rw [mem_foldl_addName ns (fun _ none => absurd none List.not_mem_nil) texts_ns, List.mem_nil_iff,
    false_or]

theorem collectNames_member (jobs : Array Job) (limits : List TargetLimit)
    (select : TargetLimit → List Nat)
    (texts : ∀ t ∈ limits, ∀ i ∈ select t, ∃ a, (jobs.getD i default).name = .str a) (n : String) :
    (collectNames jobs limits select >>= memberName (.str n)) =
      pure (limits.any fun t => (select t).any fun i => Value.equal (.str n) (jobs.getD i default).name) := by
  have names_of (t : TargetLimit) (inside : t ∈ limits) :
      Texts ((select t).map fun i => (jobs.getD i default).name) := fun y member => by
    obtain ⟨i, selected, rfl⟩ := List.mem_map.mp member
    exact texts t inside i selected
  have mem_names (t : TargetLimit) (inside : t ∈ limits) (x : Value) :
      x ∈ ((select t).map fun i => (jobs.getD i default).name).foldl addName [] ↔
        ∃ i ∈ select t, (jobs.getD i default).name = x := by
    rw [mem_foldl_addName_nil (names_of t inside), List.mem_map]
  have all_texts : Texts (limits.flatMap fun t =>
      ((select t).map fun i => (jobs.getD i default).name).foldl addName []) := fun y member => by
    obtain ⟨t, inside, named⟩ := List.mem_flatMap.mp member
    obtain ⟨i, selected, rfl⟩ := (mem_names t inside y).mp named
    exact texts t inside i selected
  rw [collectNames_texts jobs limits select texts, pure_bind]
  simp only [memberName, Value.hashable, if_true]
  congr 1
  apply Bool.eq_iff_iff.mpr
  rw [any_equal_iff (fun y member => all_texts y ((mem_foldl_addName_nil all_texts y).mp member)),
    mem_foldl_addName_nil all_texts, List.mem_flatMap, List.any_eq_true]
  constructor
  · rintro ⟨t, inside, named⟩
    obtain ⟨i, selected, same⟩ := (mem_names t inside _).mp named
    refine ⟨t, inside, List.any_eq_true.mpr ⟨i, selected, ?_⟩⟩
    rw [same]
    exact (Value.equal_text_iff _ n).mpr rfl
  · rintro ⟨t, inside, found⟩
    obtain ⟨i, selected, same⟩ := List.any_eq_true.mp found
    obtain ⟨a, text⟩ := texts t inside i selected
    rw [text, Value.equal_text_iff] at same
    exact ⟨t, inside, (mem_names t inside _).mpr ⟨i, selected, text.trans same.symm⟩⟩

end Names

theorem TargetLimit.isProcessing_eq_false (t : TargetLimit) :
    t.isProcessing = false ↔ t.running = [] ∧ t.enqueued = [] := by
  simp [TargetLimit.isProcessing]

section Answers

variable {s : Tracker} {tracked : List Nat}

theorem Partition.name_texts (inv : Partition s tracked) {select : TargetLimit → List Nat}
    (within : ∀ t ∈ s.limits, ∀ i ∈ select t, i ∈ t.members) :
    ∀ t ∈ s.limits, ∀ i ∈ select t, ∃ a, (s.jobs.getD i default).name = .str a :=
  fun t inside i selected =>
    (inv.named i (inv.valid i ((inv.members t inside i).mp (within t inside i selected)).1)).1

theorem Partition.listed (inv : Partition s tracked) {i : Nat} (tracked_i : i ∈ tracked) :
    ∃ t ∈ s.limits, i ∈ t.members := by
  obtain ⟨t, inside, same⟩ := inv.covered i tracked_i
  exact ⟨t, inside, (inv.members t inside i).mpr ⟨tracked_i, same.symm⟩⟩

theorem Partition.any_members (inv : Partition s tracked) (p : Nat → Bool) :
    (s.limits.any fun t => t.members.any p) = tracked.any p := by
  apply Bool.eq_iff_iff.mpr
  simp only [List.any_eq_true]
  constructor
  · rintro ⟨t, inside, i, member, holds⟩
    exact ⟨i, ((inv.members t inside i).mp member).1, holds⟩
  · rintro ⟨i, tracked_i, holds⟩
    obtain ⟨t, inside, member⟩ := inv.listed tracked_i
    exact ⟨t, inside, i, member, holds⟩

theorem Partition.any_done (inv : Partition s tracked) (settled : Settled s []) (p : Nat → Bool) :
    (s.limits.any fun t => t.done.any p) = tracked.any fun i => p i && (s.job i).isDone := by
  apply Bool.eq_iff_iff.mpr
  simp only [List.any_eq_true, Bool.and_eq_true]
  constructor
  · rintro ⟨t, inside, i, done, holds⟩
    have member : i ∈ t.members := List.mem_append_right _ done
    exact ⟨i, ((inv.members t inside i).mp member).1, holds, inv.finished t inside i done⟩
  · rintro ⟨i, tracked_i, holds, finished⟩
    obtain ⟨t, inside, member⟩ := inv.listed tracked_i
    exact ⟨t, inside, i, (inv.lists settled inside i).2.2.mpr ⟨member, finished, List.not_mem_nil⟩,
      holds⟩

theorem isJobNameEnqueued_answer (inv : Partition s tracked) (n : String) :
    ((isJobNameEnqueued (.str n)).exec s).1 =
      .ok (tracked.any fun i => Value.equal (.str n) (s.job i).name) := by
  have inv' := inv.updated
  rw [isJobNameEnqueued_exec, trackedNames_eq,
    collectNames_member _ _ _ (inv'.name_texts fun _ _ _ member => member), inv'.any_members]
  rfl

theorem isJobNameDone_answer (inv : Partition s tracked) (n : String) :
    ((isJobNameDone (.str n)).exec s).1 =
      .ok (tracked.any fun i => Value.equal (.str n) (s.job i).name && (s.job i).isDone) := by
  have inv' := inv.updated
  have within : ∀ t ∈ s.updated.limits, ∀ i ∈ t.done, i ∈ t.members :=
    fun _ _ _ done => List.mem_append_right _ done
  rw [isJobNameDone_exec, doneNames_eq, collectNames_member _ _ _ (inv'.name_texts within),
    inv'.any_done (settled_updated s)]
  rfl

theorem isDone_answer (inv : Partition s tracked) :
    (isDone.exec s).1 = .ok (tracked.all fun i => (s.job i).isDone) := by
  have inv' := inv.updated
  have settled := settled_updated s
  -- the targets are already updated, so updating them again changes nothing
  have same : s.updated.limits.map (TargetLimit.update s.jobs) = s.updated.limits := by
    rw [List.map_congr_left fun t inside => update_of_mem_updated inside, List.map_id']
  rw [isDone_exec, same]
  show Except.ok _ = Except.ok _
  congr 1
  apply Bool.eq_iff_iff.mpr
  simp only [Bool.not_eq_eq_eq_not, Bool.not_true, List.any_eq_false, Bool.not_eq_true,
    TargetLimit.isProcessing_eq_false, List.all_eq_true]
  constructor
  · intro idle i tracked_i
    obtain ⟨t, inside, member⟩ := inv'.listed tracked_i
    obtain ⟨no_running, no_enqueued⟩ := idle t inside
    simp only [TargetLimit.members, no_running, no_enqueued, List.nil_append] at member
    exact inv'.finished t inside i member
  · intro all_done t inside
    have done (i : Nat) (member : i ∈ t.members) : (s.updated.job i).isDone = true :=
      all_done i ((inv'.members t inside i).mp member).1
    constructor
    · refine List.eq_nil_iff_forall_not_mem.mpr fun i running => ?_
      obtain ⟨member, busy, _⟩ := (inv'.lists settled inside i).2.1.mp running
      have finished := done i member
      rw [Job.isDone_of_isRunning busy] at finished
      cases finished
    · refine List.eq_nil_iff_forall_not_mem.mpr fun i enqueued => ?_
      obtain ⟨member, waiting | fresh⟩ := (inv'.lists settled inside i).1.mp enqueued
      · have finished := done i member
        rw [Job.isDone_of_isWaiting waiting] at finished
        cases finished
      · exact List.not_mem_nil fresh

end Answers

/-- How a tracker stands on a set of tracked jobs: after every allowed call that updates, each
target's lists hold its tracked jobs, each once and on the list of its state of work (the job
the call has just enqueued stays enqueued), and the questions on names and on being done answer
for the tracked jobs. -/
def Accounts (s : Tracker) (tracked : List Nat) : Prop :=
  (∀ e : Event, e.Updates → e.Allowed s tracked → ∀ t ∈ (e.after s).limits, t.members.Nodup ∧
    ∀ i, (i ∈ t.members ↔ i ∈ e.tracks tracked ∧ ((e.after s).job i).target = t.name) ∧
      (i ∈ t.enqueued ↔ i ∈ t.members ∧ (((e.after s).job i).isWaiting ∨ i ∈ e.fresh)) ∧
      (i ∈ t.running ↔ i ∈ t.members ∧ ((e.after s).job i).isRunning ∧ i ∉ e.fresh) ∧
      (i ∈ t.done ↔ i ∈ t.members ∧ ((e.after s).job i).isDone ∧ i ∉ e.fresh)) ∧
  (∀ n : String,
    ((isJobNameEnqueued (.str n)).exec s).1 =
      .ok (tracked.any fun i => Value.equal (.str n) (s.job i).name) ∧
    ((isJobNameDone (.str n)).exec s).1 =
      .ok (tracked.any fun i => Value.equal (.str n) (s.job i).name && (s.job i).isDone)) ∧
  (isDone.exec s).1 = .ok (tracked.all fun i => (s.job i).isDone)

/-- Along every run over jobs the program makes, the tracker accounts for the jobs it tracks. -/
theorem Run.accounts_tracked_jobs {jobs : List Job} (named : ∀ j ∈ jobs, j.Named) {s : Tracker}
    {tracked : List Nat} (run : Run jobs s tracked) : Accounts s tracked := by
  have inv := run.partition named
  refine ⟨fun e updates allowed t inside => ?_,
    fun n => ⟨isJobNameEnqueued_answer inv n, isJobNameDone_answer inv n⟩, isDone_answer inv⟩
  have inv' := inv.step e allowed
  have settled := Settled.step inv e updates allowed
  exact ⟨inv'.nodup t inside, fun i => ⟨inv'.members t inside i, inv'.lists settled inside i⟩⟩

/-- A job named a on target t, tracked by a new tracker. -/
def trackedOnce : List Job := [⟨.str "a", .str "t", none, none⟩]

theorem accounts_after_tracking_once :
    (∀ j ∈ trackedOnce, j.Named) ∧
      Run trackedOnce ((Event.track 0).after (Tracker.start trackedOnce)) [0] ∧
      Accounts ((Event.track 0).after (Tracker.start trackedOnce)) [0] :=
  have named : ∀ j ∈ trackedOnce, j.Named := by
    simp [trackedOnce, Job.Named]
  have run : Run trackedOnce ((Event.track 0).after (Tracker.start trackedOnce)) [0] :=
    Run.step (.track 0) .start ⟨by decide, List.not_mem_nil⟩
  ⟨named, run, Run.accounts_tracked_jobs named run⟩

end Dashwright.Jobs
