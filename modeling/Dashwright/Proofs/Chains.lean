import Mathlib.Logic.Relation
import Mathlib.Data.List.Perm.Subperm

/-! Chains of steps of a relation, as walks with a limited depth meet them.

A walk that goes from a point to every point one step on, and gives up at some depth, gives up
exactly where a chain of that many steps starts. A point that reaches a cycle starts chains of
every length; in a set of points closed under the steps, a chain at least as long as the set
is large reaches a cycle. So within a set no larger than the depth, the walk gives up exactly
when a cycle is reached. -/

namespace Dashwright

open Relation

/-- A chain of `length` steps of `r` starts at a point. -/
inductive ChainFrom {α : Type} (r : α → α → Prop) : Nat → α → Prop
  | start (a : α) : ChainFrom r 0 a
  | step {a b : α} {length : Nat} (first : r a b) (rest : ChainFrom r length b) : ChainFrom r (length + 1) a

section Chains

variable {α : Type} {r : α → α → Prop}

theorem ChainFrom.shorter {length : Nat} {a : α} (chain : ChainFrom r (length + 1) a) : ChainFrom r length a := by
  induction length generalizing a with
  | zero => exact .start a
  | succ length ih =>
    cases chain with
    | step first rest => exact .step first (ih rest)

theorem ChainFrom.of_transGen {a b : α} (reach : TransGen r a b) {length : Nat} (chain : ChainFrom r length b) :
    ChainFrom r (length + 1) a := by
  induction reach generalizing length with
  | single first => exact .step first chain
  | tail _ last ih => exact (ih (.step last chain)).shorter

theorem ChainFrom.of_reflTransGen {a b : α} (reach : ReflTransGen r a b) {length : Nat}
    (chain : ChainFrom r length b) : ChainFrom r length a := by
  rcases reflTransGen_iff_eq_or_transGen.mp reach with rfl | reach
  · exact chain
  · exact (ChainFrom.of_transGen reach chain).shorter

/-- Chains of every length start at a point that reaches a cycle. -/
theorem chainFrom_of_cycle {a b : α} (reach : ReflTransGen r a b) (cycle : TransGen r b b) (length : Nat) :
    ChainFrom r length a := by
  have around : ∀ n, ChainFrom r n b := by
    intro n
    induction n with
    | zero => exact .start b
    | succ n ih => exact ChainFrom.of_transGen cycle ih
  exact ChainFrom.of_reflTransGen reach (around length)

theorem cycle_of_chain {s : List α} (closed : ∀ a ∈ s, ∀ b, r a b → b ∈ s) {length : Nat} {a : α}
    (chain : ChainFrom r length a) :
    ∀ trail : List α, a ∈ s → trail ⊆ s → trail.Nodup → a ∉ trail → (∀ earlier ∈ trail, TransGen r earlier a) →
      s.length ≤ length + trail.length → ∃ b, ReflTransGen r a b ∧ TransGen r b b := by
  induction chain with
  | start a =>
    -- the trail and its end are distinct points of the set, one more than it holds
    intro trail member within distinct fresh _ long
    have fits := ((List.nodup_cons.mpr ⟨fresh, distinct⟩).subperm
      (List.cons_subset.mpr ⟨member, within⟩)).length_le
    simp only [List.length_cons] at fits
    omega
  | @step a b length first rest ih =>
    intro trail member within distinct fresh before long
    by_cases seen : b ∈ a :: trail
    · -- the next point is on the trail: the trail from it back to itself is a cycle
      rcases List.mem_cons.mp seen with same | earlier
      · rw [same] at first
        exact ⟨a, .refl, .single first⟩
      · exact ⟨b, .single first, .tail (before b earlier) first⟩
    · have onward : ∀ earlier ∈ a :: trail, TransGen r earlier b := by
        intro earlier listed
        rcases List.mem_cons.mp listed with rfl | onTrail
        · exact .single first
        · exact .tail (before earlier onTrail) first
      obtain ⟨c, reach, cycle⟩ := ih (a :: trail) (closed a member b first)
        (List.cons_subset.mpr ⟨member, within⟩) (List.nodup_cons.mpr ⟨fresh, distinct⟩) seen onward
        (by simp only [List.length_cons]; omega)
      exact ⟨c, .head first reach, cycle⟩

/-- In a set of points closed under the steps, a chain at least as long as the set is large
reaches a cycle. -/
theorem cycle_of_long_chain {s : List α} (closed : ∀ a ∈ s, ∀ b, r a b → b ∈ s) {length : Nat} {a : α}
    (member : a ∈ s) (long : s.length ≤ length) (chain : ChainFrom r length a) :
    ∃ b, ReflTransGen r a b ∧ TransGen r b b :=
  cycle_of_chain closed chain [] member (List.nil_subset _) List.nodup_nil List.not_mem_nil
    (fun _ none => absurd none List.not_mem_nil) (by simp only [List.length_nil]; omega)

end Chains

end Dashwright
