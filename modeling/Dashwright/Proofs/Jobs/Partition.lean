import Dashwright.Proofs.Jobs.Runs
import Dashwright.Proofs.Value.Texts
import Mathlib.Data.List.Nodup

/-! The target lists partition the tracked jobs.

Each target keeps its jobs in three lists: enqueued, running and done. Between two updates a
job's work may start or finish, so the lists go stale, but never wrong in a way an update cannot
mend: a running job has a future, and a done job stays done. An update rebuilds the three lists
from the old ones, and then every tracked job of the target stands in exactly one of them, the
one its work calls for. -/

namespace Dashwright.Jobs


namespace TargetLimit

def members (t : TargetLimit) : List Nat := t.enqueued ++ t.running ++ t.done

section Update

variable (jobs : Array Job) (t : TargetLimit)

@[simp] theorem update_name : (t.update jobs).name = t.name := rfl

@[simp] theorem update_limit : (t.update jobs).limit = t.limit := rfl

@[simp] theorem update_enqueued :
    (t.update jobs).enqueued = t.enqueued.filter fun i => (jobs.getD i default).isWaiting := rfl

@[simp] theorem update_running :
    (t.update jobs).running = t.running.filter (fun i => (jobs.getD i default).isRunning) ++
      t.enqueued.filter fun i => (jobs.getD i default).isRunning := rfl

@[simp] theorem update_done :
    (t.update jobs).done = t.done ++ t.running.filter (fun i => (jobs.getD i default).isDone) ++
      t.enqueued.filter fun i => (jobs.getD i default).isDone := rfl

theorem count_filter_of_false {p : Nat → Bool} {a : Nat} (l : List Nat) (h : p a = false) :
    (l.filter p).count a = 0 := by
  rw [List.count_eq_zero, List.mem_filter, h]
  simp

theorem count_split (job : Nat → Job) (l : List Nat) (x : Nat) :
    (l.filter fun i => (job i).isWaiting).count x + (l.filter fun i => (job i).isRunning).count x +
      (l.filter fun i => (job i).isDone).count x = l.count x := by
  rcases Job.status (job x) with ⟨w, r, d⟩ | ⟨w, r, d⟩ | ⟨w, r, d⟩ <;>
    simp [List.count_filter, count_filter_of_false, w, r, d]

theorem update_members_perm (started : ∀ i ∈ t.running, (jobs.getD i default).isWaiting = false) :
    (t.update jobs).members.Perm t.members := by
  rw [List.perm_iff_count]
  intro x
  simp only [members, update_enqueued, update_running, update_done, List.count_append]
  have enqueued := count_split (fun i => jobs.getD i default) t.enqueued x
  have running := count_split (fun i => jobs.getD i default) t.running x
  -- no running job is waiting
  have none_waiting : (t.running.filter fun i => (jobs.getD i default).isWaiting).count x = 0 := by
    rw [List.count_eq_zero, List.mem_filter]
    rintro ⟨member, waiting⟩
    rw [started x member] at waiting
    cases waiting
  omega

theorem update_of_settled (waiting : ∀ i ∈ t.enqueued, (jobs.getD i default).isWaiting = true)
    (running : ∀ i ∈ t.running, (jobs.getD i default).isRunning = true) : t.update jobs = t := by
  have enqueued_waiting : t.enqueued.filter (fun i => (jobs.getD i default).isWaiting) = t.enqueued :=
    List.filter_eq_self.mpr waiting
  have running_running : t.running.filter (fun i => (jobs.getD i default).isRunning) = t.running :=
    List.filter_eq_self.mpr running
  have enqueued_running : t.enqueued.filter (fun i => (jobs.getD i default).isRunning) = [] :=
    List.filter_eq_nil_iff.mpr fun i member h => by
      rw [Job.isRunning_of_isWaiting (waiting i member)] at h
      cases h
  have enqueued_done : t.enqueued.filter (fun i => (jobs.getD i default).isDone) = [] :=
    List.filter_eq_nil_iff.mpr fun i member h => by
      rw [Job.isDone_of_isWaiting (waiting i member)] at h
      cases h
  have running_done : t.running.filter (fun i => (jobs.getD i default).isDone) = [] :=
    List.filter_eq_nil_iff.mpr fun i member h => by
      rw [Job.isDone_of_isRunning (running i member)] at h
      cases h
  calc t.update jobs
      = { t with
          enqueued := t.enqueued.filter fun i => (jobs.getD i default).isWaiting
          running := t.running.filter (fun i => (jobs.getD i default).isRunning) ++
            t.enqueued.filter fun i => (jobs.getD i default).isRunning
          done := t.done ++ t.running.filter (fun i => (jobs.getD i default).isDone) ++
            t.enqueued.filter fun i => (jobs.getD i default).isDone } := rfl
    _ = t := by
      rw [enqueued_waiting, running_running, enqueued_running, enqueued_done, running_done]
      simp only [List.append_nil]

theorem update_update : (t.update jobs).update jobs = t.update jobs := by
  apply update_of_settled
  · intro i member
    simp only [update_enqueued, List.mem_filter] at member
    exact member.2
  · intro i member
    simp only [update_running, List.mem_append, List.mem_filter] at member
    rcases member with ⟨_, h⟩ | ⟨_, h⟩ <;> exact h

end Update

theorem members_enqueue (t : TargetLimit) (i : Nat) :
    ({ t with enqueued := t.enqueued ++ [i] } : TargetLimit).members.Perm (i :: t.members) := by
  simp only [members, List.append_assoc, List.singleton_append]
  exact List.perm_middle

end TargetLimit

/-- What holds of the tracker at every point of a run, given the jobs tracked so far: the target
lists hold every tracked job exactly once, on the target of its name, a running job has a
future and a done job is done. -/
structure Partition (s : Tracker) (tracked : List Nat) : Prop where
  named : ∀ i < s.jobs.size, (s.job i).Named
  valid : ∀ i ∈ tracked, i < s.jobs.size
  distinct : tracked.Nodup
  nodup : ∀ t ∈ s.limits, t.members.Nodup
  members : ∀ t ∈ s.limits, ∀ i, i ∈ t.members ↔ i ∈ tracked ∧ (s.job i).target = t.name
  covered : ∀ i ∈ tracked, ∃ t ∈ s.limits, t.name = (s.job i).target
  names : (s.limits.map TargetLimit.name).Nodup
  started : ∀ t ∈ s.limits, ∀ i ∈ t.running, (s.job i).isWaiting = false
  finished : ∀ t ∈ s.limits, ∀ i ∈ t.done, (s.job i).isDone = true

/-- Right after an update every job on a target's lists stands where its work puts it, but for
the `fresh` jobs, just enqueued whatever their work. -/
structure Settled (s : Tracker) (fresh : List Nat) : Prop where
  waiting : ∀ t ∈ s.limits, ∀ i ∈ t.enqueued, (s.job i).isWaiting = true ∨ i ∈ fresh
  running : ∀ t ∈ s.limits, ∀ i ∈ t.running, (s.job i).isRunning = true ∧ i ∉ fresh
  done : ∀ t ∈ s.limits, ∀ i ∈ t.done, i ∉ fresh

section Steps

variable {s : Tracker} {tracked : List Nat}

theorem mem_updated_limits {t : TargetLimit} (member : t ∈ s.updated.limits) :
    ∃ u ∈ s.limits, t = u.update s.jobs := by
  simp only [Tracker.updated, List.mem_map] at member
  obtain ⟨u, inside, rfl⟩ := member
  exact ⟨u, inside, rfl⟩

theorem Partition.updated (inv : Partition s tracked) : Partition s.updated tracked where
  named := inv.named
  valid := inv.valid
  distinct := inv.distinct
  nodup t member := by
    obtain ⟨u, inside, rfl⟩ := mem_updated_limits member
    exact ((u.update_members_perm s.jobs (inv.started u inside)).nodup_iff).mpr (inv.nodup u inside)
  members t member i := by
    obtain ⟨u, inside, rfl⟩ := mem_updated_limits member
    rw [(u.update_members_perm s.jobs (inv.started u inside)).mem_iff, TargetLimit.update_name]
    exact inv.members u inside i
  covered i tracked_i := by
    obtain ⟨u, inside, same⟩ := inv.covered i tracked_i
    exact ⟨u.update s.jobs, List.mem_map_of_mem inside, same⟩
  names := by
    simpa [Tracker.updated, List.map_map, Function.comp_def] using inv.names
  started t member i running := by
    obtain ⟨u, inside, rfl⟩ := mem_updated_limits member
    simp only [TargetLimit.update_running, List.mem_append, List.mem_filter] at running
    rcases running with ⟨_, r⟩ | ⟨_, r⟩ <;>
      exact Bool.eq_false_iff.mpr fun w => Bool.false_ne_true ((Job.isRunning_of_isWaiting w).symm.trans r)
  finished t member i done := by
    obtain ⟨u, inside, rfl⟩ := mem_updated_limits member
    simp only [TargetLimit.update_done, List.mem_append, List.mem_filter] at done
    rcases done with (earlier | ⟨_, d⟩) | ⟨_, d⟩
    · exact inv.finished u inside i earlier
    · exact d
    · exact d

theorem settled_updated (s : Tracker) : Settled s.updated [] where
  waiting t member i enqueued := by
    obtain ⟨u, _, rfl⟩ := mem_updated_limits member
    simp only [TargetLimit.update_enqueued, List.mem_filter] at enqueued
    exact .inl enqueued.2
  running t member i running := by
    obtain ⟨u, _, rfl⟩ := mem_updated_limits member
    simp only [TargetLimit.update_running, List.mem_append, List.mem_filter] at running
    rcases running with ⟨_, r⟩ | ⟨_, r⟩ <;> exact ⟨r, List.not_mem_nil⟩
  done _ _ _ _ := List.not_mem_nil

theorem Partition.withTarget (inv : Partition s tracked) {j : Job} {a : String}
    (text : j.target = .str a) : Partition (s.withTarget j) tracked := by
  unfold Tracker.withTarget
  split
  · exact inv
  · rename_i unknown
    -- no known target has the job's target name, so no tracked job has it either
    have fresh (t : TargetLimit) (inside : t ∈ s.limits) : t.name ≠ j.target := by
      intro same
      apply unknown
      rw [List.any_eq_true]
      refine ⟨t, inside, ?_⟩
      rw [text]
      exact (Value.equal_text_iff _ _).mpr (same.trans text)
    have new_members : ∀ i, i ∈ (⟨j.target, j.poolSize.getD (.int 1), [], [], []⟩ : TargetLimit).members ↔
        i ∈ tracked ∧ (s.job i).target = j.target := by
      intro i
      simp only [TargetLimit.members, List.append_nil, List.not_mem_nil, false_iff, not_and]
      intro tracked_i same
      obtain ⟨t, inside, named⟩ := inv.covered i tracked_i
      exact fresh t inside (named.trans same)
    refine ⟨inv.named, inv.valid, inv.distinct, ?_, ?_, ?_, ?_, ?_, ?_⟩
    · intro t member
      rcases List.mem_append.mp member with inside | new
      · exact inv.nodup t inside
      · rw [List.mem_singleton.mp new]
        exact List.nodup_nil
    · intro t member
      rcases List.mem_append.mp member with inside | new
      · exact inv.members t inside
      · rw [List.mem_singleton.mp new]
        exact new_members
    · intro i tracked_i
      obtain ⟨t, inside, same⟩ := inv.covered i tracked_i
      exact ⟨t, List.mem_append_left _ inside, same⟩
    · simp only [List.map_append, List.map_singleton, List.nodup_append, List.nodup_cons,
        List.not_mem_nil, not_false_eq_true, List.nodup_nil, and_self, List.mem_singleton, true_and]
      refine ⟨inv.names, ?_⟩
      rintro name listed _ rfl
      obtain ⟨t, inside, rfl⟩ := List.mem_map.mp listed
      exact fresh t inside
    · intro t member i running
      rcases List.mem_append.mp member with inside | new
      · exact inv.started t inside i running
      · rw [List.mem_singleton.mp new] at running
        cases running
    · intro t member i done
      rcases List.mem_append.mp member with inside | new
      · exact inv.finished t inside i done
      · rw [List.mem_singleton.mp new] at done
        cases done

theorem withTarget_covers (s : Tracker) {j : Job} {a : String} (text : j.target = .str a) :
    ∃ t ∈ (s.withTarget j).limits, t.name = j.target := by
  unfold Tracker.withTarget
  split
  · rename_i known
    obtain ⟨t, inside, equal⟩ := List.any_eq_true.mp known
    rw [text] at equal ⊢
    exact ⟨t, inside, (Value.equal_text_iff _ _).mp equal⟩
  · exact ⟨_, List.mem_append_right _ (List.mem_singleton_self _), rfl⟩

theorem enqueue_image {i : Nat} {a : String} (text : (s.job i).target = .str a) (t : TargetLimit) :
    (t.name = (s.job i).target ∧ (if Value.equal t.name (s.job i).target then
        { t with enqueued := t.enqueued ++ [i] } else t) = { t with enqueued := t.enqueued ++ [i] }) ∨
    (t.name ≠ (s.job i).target ∧ (if Value.equal t.name (s.job i).target then
        { t with enqueued := t.enqueued ++ [i] } else t) = t) := by
  cases equal : Value.equal t.name (s.job i).target
  · right
    refine ⟨fun same => ?_, rfl⟩
    rw [text] at equal same
    rw [(Value.equal_text_iff _ _).mpr same] at equal
    cases equal
  · left
    rw [text] at equal ⊢
    exact ⟨(Value.equal_text_iff _ _).mp equal, rfl⟩

theorem mem_enqueue_limits {i : Nat} {a : String} (text : (s.job i).target = .str a) {t' : TargetLimit}
    (member : t' ∈ (s.enqueue i (s.job i)).limits) :
    ∃ t ∈ s.limits, (t.name = (s.job i).target ∧ t' = { t with enqueued := t.enqueued ++ [i] }) ∨
      (t.name ≠ (s.job i).target ∧ t = t') := by
  obtain ⟨t, inside, rfl⟩ := List.mem_map.mp member
  rcases enqueue_image text t with ⟨same, taken⟩ | ⟨other, kept⟩
  · exact ⟨t, inside, .inl ⟨same, taken⟩⟩
  · exact ⟨t, inside, .inr ⟨other, kept.symm⟩⟩

theorem enqueue_names (i : Nat) {a : String} (text : (s.job i).target = .str a) :
    (s.enqueue i (s.job i)).limits.map TargetLimit.name = s.limits.map TargetLimit.name := by
  simp only [Tracker.enqueue, List.map_map]
  apply List.map_congr_left
  intro t _
  rcases enqueue_image text t with ⟨_, taken⟩ | ⟨_, kept⟩
  · simp only [Function.comp_apply, taken]
  · simp only [Function.comp_apply, kept]

theorem Partition.enqueue (inv : Partition s tracked) {i : Nat} (valid : i < s.jobs.size)
    (fresh : i ∉ tracked) {a : String} (text : (s.job i).target = .str a)
    (known : ∃ t ∈ s.limits, t.name = (s.job i).target) :
    Partition (s.enqueue i (s.job i)) (tracked ++ [i]) := by
  have untracked (t : TargetLimit) (inside : t ∈ s.limits) : i ∉ t.members := fun member =>
    fresh ((inv.members t inside i).mp member).1
  refine ⟨inv.named, ?_, ?_, ?_, ?_, ?_, ?_, ?_, ?_⟩
  · intro k tracked_k
    rcases List.mem_append.mp tracked_k with earlier | new
    · exact inv.valid k earlier
    · rw [List.mem_singleton.mp new]
      exact valid
  · refine List.nodup_append.mpr ⟨inv.distinct, List.nodup_cons.mpr ⟨List.not_mem_nil, List.nodup_nil⟩, ?_⟩
    intro k earlier k' new same
    rw [List.mem_singleton.mp new] at same
    exact fresh (same ▸ earlier)
  · intro t' member
    obtain ⟨t, inside, ⟨_, rfl⟩ | ⟨_, rfl⟩⟩ := mem_enqueue_limits text member
    · rw [(TargetLimit.members_enqueue t i).nodup_iff, List.nodup_cons]
      exact ⟨untracked t inside, inv.nodup t inside⟩
    · exact inv.nodup t inside
  · intro t' member k
    obtain ⟨t, inside, ⟨same, rfl⟩ | ⟨other, rfl⟩⟩ := mem_enqueue_limits text member
    · rw [(TargetLimit.members_enqueue t i).mem_iff, List.mem_cons, inv.members t inside k,
        List.mem_append, List.mem_singleton]
      constructor
      · rintro (rfl | ⟨tracked_k, target⟩)
        · exact ⟨.inr rfl, same.symm⟩
        · exact ⟨.inl tracked_k, target⟩
      · rintro ⟨earlier | rfl, target⟩
        · exact .inr ⟨earlier, target⟩
        · exact .inl rfl
    · rw [inv.members t inside k, List.mem_append, List.mem_singleton]
      constructor
      · rintro ⟨tracked_k, target⟩
        exact ⟨.inl tracked_k, target⟩
      · rintro ⟨earlier | rfl, target⟩
        · exact ⟨earlier, target⟩
        · exact absurd target.symm other
  · intro k tracked_k
    have covered : ∃ t ∈ s.limits, t.name = (s.job k).target := by
      rcases List.mem_append.mp tracked_k with earlier | new
      · exact inv.covered k earlier
      · rw [List.mem_singleton.mp new]
        exact known
    obtain ⟨t, inside, same⟩ := covered
    refine ⟨_, List.mem_map_of_mem inside, ?_⟩
    rcases enqueue_image text t with ⟨_, taken⟩ | ⟨_, kept⟩
    · rw [taken]
      exact same
    · rw [kept]
      exact same
  · rw [enqueue_names i text]
    exact inv.names
  · intro t' member k running
    obtain ⟨t, inside, ⟨_, rfl⟩ | ⟨_, rfl⟩⟩ := mem_enqueue_limits text member <;>
      exact inv.started t inside k running
  · intro t' member k done
    obtain ⟨t, inside, ⟨_, rfl⟩ | ⟨_, rfl⟩⟩ := mem_enqueue_limits text member <;>
      exact inv.finished t inside k done

theorem Settled.enqueue (settled : Settled s []) (inv : Partition s tracked) {i : Nat}
    (fresh : i ∉ tracked) {a : String} (text : (s.job i).target = .str a) :
    Settled (s.enqueue i (s.job i)) [i] := by
  -- a job already on a target's lists is tracked, so it is not the new one
  have old (t : TargetLimit) (inside : t ∈ s.limits) (k : Nat) (member : k ∈ t.members) : k ∉ [i] := by
    rw [List.mem_singleton]
    rintro rfl
    exact fresh ((inv.members t inside k).mp member).1
  refine ⟨?_, ?_, ?_⟩
  · intro t' member k enqueued
    obtain ⟨t, inside, ⟨_, rfl⟩ | ⟨_, rfl⟩⟩ := mem_enqueue_limits text member
    · rcases List.mem_append.mp enqueued with earlier | new
      · exact (settled.waiting t inside k earlier).imp_right fun none => absurd none List.not_mem_nil
      · exact .inr new
    · exact (settled.waiting t inside k enqueued).imp_right fun none => absurd none List.not_mem_nil
  · intro t' member k running
    obtain ⟨t, inside, ⟨_, rfl⟩ | ⟨_, rfl⟩⟩ := mem_enqueue_limits text member <;>
      exact ⟨(settled.running t inside k running).1,
        old t inside k (List.mem_append_left _ (List.mem_append_right _ running))⟩
  · intro t' member k done
    obtain ⟨t, inside, ⟨_, rfl⟩ | ⟨_, rfl⟩⟩ := mem_enqueue_limits text member <;>
      exact old t inside k (List.mem_append_right _ done)

@[simp] theorem setFuture_size (s : Tracker) (i : Nat) (p : Progress) :
    (s.setFuture i p).jobs.size = s.jobs.size := by
  simp [Tracker.setFuture]

theorem setFuture_job {i : Nat} (p : Progress) (valid : i < s.jobs.size) (k : Nat) :
    (s.setFuture i p).job k = if k = i then { s.job i with future := some p } else s.job k := by
  simp only [Tracker.setFuture, Tracker.job]
  split
  · rename_i same
    subst same
    simp [valid]
  · rename_i other
    simp [Ne.symm other]

theorem setFuture_target {i : Nat} (p : Progress) (valid : i < s.jobs.size) (k : Nat) :
    ((s.setFuture i p).job k).target = (s.job k).target ∧
      ((s.setFuture i p).job k).name = (s.job k).name := by
  rw [setFuture_job p valid k]
  split
  · rename_i same
    subst same
    exact ⟨rfl, rfl⟩
  · exact ⟨rfl, rfl⟩

theorem Partition.setFuture (inv : Partition s tracked) {i : Nat} (p : Progress)
    (valid : i < s.jobs.size)
    (keeps_done : (s.job i).isDone = true → ({ s.job i with future := some p } : Job).isDone = true) :
    Partition (s.setFuture i p) tracked where
  named k bound := by
    rw [setFuture_size] at bound
    obtain ⟨⟨n, name⟩, a, target⟩ := inv.named k bound
    exact ⟨⟨n, (setFuture_target p valid k).2.trans name⟩, a, (setFuture_target p valid k).1.trans target⟩
  valid k tracked_k := by
    rw [setFuture_size]
    exact inv.valid k tracked_k
  distinct := inv.distinct
  nodup := inv.nodup
  members t inside k := by
    rw [(setFuture_target p valid k).1]
    exact inv.members t inside k
  covered k tracked_k := by
    rw [(setFuture_target p valid k).1]
    exact inv.covered k tracked_k
  names := inv.names
  started t inside k running := by
    rw [setFuture_job p valid k]
    split
    · rfl
    · exact inv.started t inside k running
  finished t inside k done := by
    rw [setFuture_job p valid k]
    split
    · rename_i same
      subst same
      exact keeps_done (inv.finished t inside k done)
    · exact inv.finished t inside k done

theorem Partition.withQueue (inv : Partition s tracked) (queue : List Nat) :
    Partition { s with queue := queue } tracked :=
  ⟨inv.named, inv.valid, inv.distinct, inv.nodup, inv.members, inv.covered, inv.names, inv.started,
    inv.finished⟩

theorem Settled.withQueue {fresh : List Nat} (settled : Settled s fresh) (queue : List Nat) :
    Settled { s with queue := queue } fresh :=
  ⟨settled.waiting, settled.running, settled.done⟩

theorem update_of_mem_updated {t : TargetLimit} (member : t ∈ s.updated.limits) :
    t.update s.jobs = t := by
  obtain ⟨u, _, rfl⟩ := mem_updated_limits member
  exact TargetLimit.update_update s.jobs u

theorem update_of_mem_updatedTarget {j : Job} {t : TargetLimit}
    (member : t ∈ ((s.withTarget j).updated).limits) : t.update s.jobs = t := by
  have settled := update_of_mem_updated member
  rwa [withTarget_jobs] at settled

theorem Partition.find?_target (inv : Partition s tracked) {v : Value} {a : String} (text : v = .str a)
    {t t0 : TargetLimit} (inside : t ∈ s.limits) (hit : Value.equal t.name v = true)
    (found : s.limits.find? (fun u => Value.equal u.name v) = some t0) : t = t0 := by
  subst text
  have t0_hit := List.find?_some found
  rw [Value.equal_text_iff] at hit t0_hit
  exact List.inj_on_of_nodup_map inv.names inside (List.mem_of_find?_eq_some found) (hit.trans t0_hit.symm)

theorem accepting_after (inv : Partition s tracked) {i : Nat} (valid : i < s.jobs.size) :
    (Event.accepting i).after s = (s.withTarget (s.job i)).updated := by
  obtain ⟨_, a, text⟩ := inv.named i valid
  have inv' := (inv.withTarget text).updated
  obtain ⟨t0, inside0, name0⟩ := withTarget_covers s text
  cases found : ((s.withTarget (s.job i)).updated).limits.find?
      (fun u => Value.equal u.name (s.job i).target) with
  | none =>
    -- the job's target is known, so the search cannot fail
    have member0 : t0.update (s.withTarget (s.job i)).jobs ∈ ((s.withTarget (s.job i)).updated).limits :=
      List.mem_map_of_mem inside0
    rw [withTarget_jobs] at member0
    have missing := List.find?_eq_none.mp found (t0.update s.jobs) member0
    rw [TargetLimit.update_name, name0, text, (Value.equal_text_iff _ _).mpr rfl] at missing
    exact absurd rfl missing
  | some t =>
    simp only [Event.after, isAcceptingJob_exec valid found]
    have unchanged : (s.withTarget (s.job i)).updated.limits.map
        (fun u => if Value.equal u.name (s.job i).target then t.update s.jobs else u) =
        (s.withTarget (s.job i)).updated.limits := by
      conv_rhs => rw [← List.map_id ((s.withTarget (s.job i)).updated.limits)]
      apply List.map_congr_left
      intro u member
      cases same : Value.equal u.name (s.job i).target
      · rfl
      · -- the target found is the one of this name, and already its own update
        rw [if_pos rfl, inv'.find?_target text member same found]
        exact update_of_mem_updatedTarget (List.mem_of_find?_eq_some found)
    rw [unchanged]

theorem withTarget_job (s : Tracker) (j : Job) (k : Nat) : (s.withTarget j).job k = s.job k := by
  unfold Tracker.job
  rw [withTarget_jobs]

theorem isDone_after (s : Tracker) : Event.isDone.after s = s.updated := by
  simp only [Event.after, isDone_exec, Tracker.updated, List.map_map]
  congr 1
  apply List.map_congr_left
  intro t _
  exact TargetLimit.update_update s.jobs t

theorem known_after_update (s : Tracker) {j : Job} {a : String} (text : j.target = .str a) :
    ∃ t ∈ ((s.withTarget j).updated).limits, t.name = j.target := by
  obtain ⟨t, inside, same⟩ := withTarget_covers s text
  exact ⟨t.update (s.withTarget j).jobs, List.mem_map_of_mem inside, same⟩

theorem same_job (s : Tracker) (i : Nat) :
    ((s.withTarget (s.job i)).updated).job i = s.job i :=
  withTarget_job s _ i

theorem track_after {i : Nat} (valid : i < s.jobs.size) :
    (Event.track i).after s =
      ((s.withTarget (s.job i)).updated).enqueue i (((s.withTarget (s.job i)).updated).job i) := by
  simp only [Event.after, trackJob_exec valid]
  rw [same_job]

theorem same_job_text (s : Tracker) {i : Nat} {a : String} (text : (s.job i).target = .str a) :
    (((s.withTarget (s.job i)).updated).job i).target = .str a := by
  rw [same_job]
  exact text

theorem same_job_known (s : Tracker) {i : Nat} {a : String} (text : (s.job i).target = .str a) :
    ∃ t ∈ ((s.withTarget (s.job i)).updated).limits,
      t.name = (((s.withTarget (s.job i)).updated).job i).target := by
  rw [same_job]
  exact known_after_update s text

/-- Every allowed event keeps the partition. -/
theorem Partition.step (inv : Partition s tracked) (e : Event) (allowed : e.Allowed s tracked) :
    Partition (e.after s) (e.tracks tracked) := by
  cases e with
  | track i =>
    obtain ⟨valid, fresh⟩ := allowed
    obtain ⟨_, a, text⟩ := inv.named i valid
    have valid' : i < ((s.withTarget (s.job i)).updated).jobs.size := by
      rw [updated_jobs, withTarget_jobs]
      exact valid
    rw [track_after valid]
    exact (inv.withTarget text).updated.enqueue valid' fresh (same_job_text s text)
      (same_job_known s text)
  | accepting i =>
    rw [accepting_after inv allowed]
    obtain ⟨_, a, text⟩ := inv.named i allowed
    exact (inv.withTarget text).updated
  | enqueued name =>
    simp only [Event.after, isJobNameEnqueued_exec]
    exact inv.updated
  | doneName name =>
    simp only [Event.after, isJobNameDone_exec]
    exact inv.updated
  | isDone =>
    rw [isDone_after]
    exact inv.updated
  | next =>
    simp only [Event.after, nextJob_after]
    exact inv.updated.withQueue _
  | returnJob i =>
    simp only [Event.after, returnToQueue_exec]
    exact inv.withQueue _
  | start i =>
    obtain ⟨valid, not_done⟩ := allowed
    simp only [Event.after, startJob_exec valid]
    refine inv.setFuture .pending valid fun done => ?_
    rw [not_done] at done
    cases done
  | finish i =>
    simp only [Event.after, finishJob_after allowed]
    split
    · exact inv.setFuture .finished allowed fun _ => rfl
    · exact inv
  | cache i =>
    simp only [Event.after, cacheJob_exec allowed]
    exact inv.setFuture .cached allowed fun _ => rfl

theorem Settled.step (inv : Partition s tracked) (e : Event) (updates : e.Updates)
    (allowed : e.Allowed s tracked) : Settled (e.after s) e.fresh := by
  cases e with
  | track i =>
    obtain ⟨valid, fresh⟩ := allowed
    obtain ⟨_, a, text⟩ := inv.named i valid
    rw [track_after valid]
    exact (settled_updated _).enqueue (inv.withTarget text).updated fresh (same_job_text s text)
  | accepting i =>
    rw [accepting_after inv allowed]
    exact settled_updated _
  | enqueued name =>
    simp only [Event.after, isJobNameEnqueued_exec]
    exact settled_updated s
  | doneName name =>
    simp only [Event.after, isJobNameDone_exec]
    exact settled_updated s
  | isDone =>
    rw [isDone_after]
    exact settled_updated s
  | next =>
    simp only [Event.after, nextJob_after]
    exact (settled_updated s).withQueue _
  | returnJob _ | start _ | finish _ | cache _ => exact updates.elim

theorem Partition.lists {fresh : List Nat} (inv : Partition s tracked) (settled : Settled s fresh)
    {t : TargetLimit} (inside : t ∈ s.limits) (i : Nat) :
    (i ∈ t.enqueued ↔ i ∈ t.members ∧ ((s.job i).isWaiting ∨ i ∈ fresh)) ∧
    (i ∈ t.running ↔ i ∈ t.members ∧ (s.job i).isRunning ∧ i ∉ fresh) ∧
    (i ∈ t.done ↔ i ∈ t.members ∧ (s.job i).isDone ∧ i ∉ fresh) := by
  have waiting := settled.waiting t inside i
  have running := settled.running t inside i
  have done := settled.done t inside i
  have finished := inv.finished t inside i
  simp only [TargetLimit.members, List.mem_append]
  -- a job is in one state of work, so it stands on one list
  refine ⟨⟨fun m => ⟨.inl (.inl m), waiting m⟩, ?_⟩, ⟨fun m => ⟨.inl (.inr m), running m⟩, ?_⟩,
    ⟨fun m => ⟨.inr m, finished m, done m⟩, ?_⟩⟩
  · rintro ⟨(m | m) | m, state⟩
    · exact m
    · obtain ⟨r, f⟩ := running m
      rcases state with w | new
      · rw [Job.isRunning_of_isWaiting w] at r
        cases r
      · exact absurd new f
    · rcases state with w | new
      · rw [Job.isDone_of_isWaiting w] at finished
        exact absurd (finished m) (by simp)
      · exact absurd new (done m)
  · rintro ⟨(m | m) | m, r, f⟩
    · rcases waiting m with w | new
      · rw [Job.isRunning_of_isWaiting w] at r
        cases r
      · exact absurd new f
    · exact m
    · rw [Job.isDone_of_isRunning r] at finished
      exact absurd (finished m) (by simp)
  · rintro ⟨(m | m) | m, d, f⟩
    · rcases waiting m with w | new
      · rw [Job.isDone_of_isWaiting w] at d
        cases d
      · exact absurd new f
    · rw [Job.isDone_of_isRunning (running m).1] at d
      cases d
    · exact m

end Steps

theorem start_job_mem {jobs : List Job} {i : Nat} (valid : i < (Tracker.start jobs).jobs.size) :
    (Tracker.start jobs).job i ∈ jobs := by
  have bound : i < jobs.length := valid
  simp only [Tracker.job, Tracker.start, Array.getD_eq_getD_getElem?, List.getElem?_toArray]
  rw [List.getElem?_eq_getElem bound, Option.getD_some]
  exact List.getElem_mem bound

theorem Partition.start {jobs : List Job} (named : ∀ j ∈ jobs, j.Named) :
    Partition (Tracker.start jobs) [] where
  named _ valid := named _ (start_job_mem valid)
  valid _ none := absurd none List.not_mem_nil
  distinct := List.nodup_nil
  nodup _ none := absurd none List.not_mem_nil
  members _ none := absurd none List.not_mem_nil
  covered _ none := absurd none List.not_mem_nil
  names := List.nodup_nil
  started _ none := absurd none List.not_mem_nil
  finished _ none := absurd none List.not_mem_nil

/-- Along every run over jobs the program makes, the target lists partition the tracked jobs. -/
theorem Run.partition {jobs : List Job} (named : ∀ j ∈ jobs, j.Named) {s : Tracker}
    {tracked : List Nat} (run : Run jobs s tracked) : Partition s tracked := by
  induction run with
  | start => exact Partition.start named
  | step e _ allowed inv => exact inv.step e allowed

end Dashwright.Jobs
