import Dashwright.Query.Tokenizer
import Dashwright.Proofs.Loops

/-! The walk for select items.

Tokenizing walks the whole trace for its select items, into every non-null mapping value and
every list item. The walk reads a null as the sign to start at the root, so a null that stands
as a list item starts the whole walk again, under a longer path, and it meets that null again:
the walk never ends, and the recursion limit stops it. Every other value is walked once, by its
parts. So the walk ends exactly when no list reached this way holds a null, and tokenizing
fails as an endless walk exactly then: no other step of it fails that way. -/

namespace Dashwright.Query

/-- A null standing as an item of a list of a value, reached through mapping values and list
items. -/
inductive NullItem : Value → Prop
  | here {xs : List Value} : Value.none ∈ xs → NullItem (.list xs)
  | item {xs : List Value} {x : Value} : x ∈ xs → NullItem x → NullItem (.list xs)
  | entry {es : List (Value × Value)} {locs : Option (List (Value × String × String))} {k v : Value} :
      (k, v) ∈ es → NullItem v → NullItem (.map es locs)

theorem nullItem_list_iff {xs : List Value} :
    NullItem (.list xs) ↔ Value.none ∈ xs ∨ ∃ x ∈ xs, NullItem x := by
  constructor
  · intro holds
    cases holds with
    | here present => exact .inl present
    | item member below => exact .inr ⟨_, member, below⟩
  · rintro (present | ⟨x, member, below⟩)
    · exact .here present
    · exact .item member below

theorem nullItem_map_iff {es : List (Value × Value)} {locs : Option (List (Value × String × String))} :
    NullItem (.map es locs) ↔ ∃ k v, (k, v) ∈ es ∧ NullItem v := by
  constructor
  · intro holds
    cases holds with
    | entry member below => exact ⟨_, _, member, below⟩
  · rintro ⟨k, v, member, below⟩
    exact .entry member below

theorem not_nullItem_none : ¬ NullItem .none := nofun

theorem nullItemIn_cons {x : Value} {rest : List Value} :
    (Value.none ∈ x :: rest ∨ ∃ y ∈ x :: rest, NullItem y) ↔
      x = .none ∨ NullItem x ∨ (Value.none ∈ rest ∨ ∃ y ∈ rest, NullItem y) := by
  grind

theorem nullItemAt_cons {k v : Value} {rest : List (Value × Value)} :
    (∃ k' v', (k', v') ∈ (k, v) :: rest ∧ NullItem v') ↔
      NullItem v ∨ ∃ k' v', (k', v') ∈ rest ∧ NullItem v' := by
  grind

/-- How a walk can end: as an endless walk exactly when `endless` holds, and with an answer
otherwise. -/
def WalkEnds {α : Type} (endless : Prop) (r : Outcome α) : Prop :=
  (endless → r = .error endlessWalk) ∧ (¬ endless → ∃ a, r = .ok a)

theorem collectItems_leaf (again : List Step → List (String × String) → Outcome (List (String × String)))
    (path : List Step) (acc : List (String × String)) (v : Value)
    (notMap : ∀ es locs, v ≠ .map es locs) (notList : ∀ xs, v ≠ .list xs) :
    ∃ items, collectItems again path acc v = .ok items := by
  rw [collectItems.eq_def]
  split
  · exact absurd rfl (notMap _ _)
  · exact absurd rfl (notList _)
  · split
    · dsimp only
      split
      · exact ⟨_, rfl⟩
      · exact ⟨_, rfl⟩
    · exact ⟨_, rfl⟩

section Again

variable (again : List Step → List (String × String) → Outcome (List (String × String)))

mutual

theorem collectItems_ok (path : List Step) (acc : List (String × String)) :
    ∀ v : Value, ¬ NullItem v → ∃ items, collectItems again path acc v = .ok items
  | .map es locs, clear => by
    rw [collectItems.eq_1]
    exact collectEntries_ok path acc es fun ⟨_, _, member, below⟩ => clear (.entry member below)
  | .list xs, clear => by
    rw [collectItems.eq_2]
    exact collectList_ok path 0 acc xs fun holds => clear (nullItem_list_iff.mpr holds)
  | .none, _ | .bool _, _ | .int _, _ | .float _, _ | .str _, _ | .bytes _, _ | .date _, _ | .moment _, _
  | .tuple _, _ | .set _, _ | .cycle _, _ | .range _ _ _, _ | .complex _ _, _ | .classObject _, _ =>
    collectItems_leaf again path acc _ (fun _ _ same => by cases same) (fun _ same => by cases same)

theorem collectEntries_ok (path : List Step) (acc : List (String × String)) :
    ∀ es : List (Value × Value), (¬ ∃ k v, (k, v) ∈ es ∧ NullItem v) →
      ∃ items, collectEntries again path acc es = .ok items
  | [], _ => ⟨acc, rfl⟩
  | (k, v) :: rest, clear => by
    have restClear : ¬ ∃ k v, (k, v) ∈ rest ∧ NullItem v := fun held => clear (nullItemAt_cons.mpr (.inr held))
    by_cases skipped : v = .none
    · subst skipped
      rw [collectEntries.eq_2]
      exact collectEntries_ok path acc rest restClear
    · obtain ⟨items, walked⟩ := collectItems_ok (path ++ [.key k]) acc v fun below =>
        clear (nullItemAt_cons.mpr (.inl below))
      rw [collectEntries.eq_3 again path acc k v rest skipped, walked, ok_bind]
      exact collectEntries_ok path items rest restClear

theorem collectList_ok (path : List Step) (i : Nat) (acc : List (String × String)) :
    ∀ xs : List Value, ¬ (Value.none ∈ xs ∨ ∃ x ∈ xs, NullItem x) →
      ∃ items, collectList again path i acc xs = .ok items
  | [], _ => ⟨acc, rfl⟩
  | x :: rest, clear => by
    have notNull : x ≠ .none := fun same => clear (nullItemIn_cons.mpr (.inl same))
    obtain ⟨items, walked⟩ := collectItems_ok (path ++ [.index i]) acc x fun below =>
      clear (nullItemIn_cons.mpr (.inr (.inl below)))
    rw [collectList.eq_3 again path i acc x rest notNull, walked, ok_bind]
    exact collectList_ok path (i + 1) items rest fun holds => clear (nullItemIn_cons.mpr (.inr (.inr holds)))

end

variable {again}

mutual

theorem collectItems_endless (restart : ∀ path acc, again path acc = .error endlessWalk)
    (path : List Step) (acc : List (String × String)) :
    ∀ v : Value, NullItem v → collectItems again path acc v = .error endlessWalk
  | .map es locs, endless => by
    rw [collectItems.eq_1]
    exact collectEntries_endless restart path acc es (nullItem_map_iff.mp endless)
  | .list xs, endless => by
    rw [collectItems.eq_2]
    exact collectList_endless restart path 0 acc xs (nullItem_list_iff.mp endless)
  | .none, endless | .bool _, endless | .int _, endless | .float _, endless | .str _, endless
  | .bytes _, endless | .date _, endless | .moment _, endless | .tuple _, endless | .set _, endless
  | .cycle _, endless | .range _ _ _, endless | .complex _ _, endless | .classObject _, endless => by
    cases endless

theorem collectEntries_endless (restart : ∀ path acc, again path acc = .error endlessWalk)
    (path : List Step) (acc : List (String × String)) :
    ∀ es : List (Value × Value), (∃ k v, (k, v) ∈ es ∧ NullItem v) →
      collectEntries again path acc es = .error endlessWalk
  | [], ⟨_, _, absent, _⟩ => by cases absent
  | (k, v) :: rest, endless => by
    by_cases skipped : v = .none
    · -- a null value is skipped, so the null item lies further on
      subst skipped
      rw [collectEntries.eq_2]
      exact collectEntries_endless restart path acc rest
        ((nullItemAt_cons.mp endless).resolve_left not_nullItem_none)
    · rw [collectEntries.eq_3 again path acc k v rest skipped]
      by_cases here : NullItem v
      · rw [collectItems_endless restart (path ++ [Step.key k]) acc v here, error_bind]
      · obtain ⟨items, walked⟩ := collectItems_ok again (path ++ [.key k]) acc v here
        rw [walked, ok_bind]
        exact collectEntries_endless restart path items rest ((nullItemAt_cons.mp endless).resolve_left here)

theorem collectList_endless (restart : ∀ path acc, again path acc = .error endlessWalk)
    (path : List Step) (i : Nat) (acc : List (String × String)) :
    ∀ xs : List Value, (Value.none ∈ xs ∨ ∃ x ∈ xs, NullItem x) →
      collectList again path i acc xs = .error endlessWalk
  | [], endless => by simp at endless
  | x :: rest, endless => by
    by_cases restarts : x = .none
    · -- a null item starts the walk again, which never ends
      subst restarts
      rw [collectList.eq_2, restart, error_bind]
    · rw [collectList.eq_3 again path i acc x rest restarts]
      have later := (nullItemIn_cons.mp endless).resolve_left restarts
      by_cases here : NullItem x
      · rw [collectItems_endless restart (path ++ [Step.index i]) acc x here, error_bind]
      · obtain ⟨items, walked⟩ := collectItems_ok again (path ++ [.index i]) acc x here
        rw [walked, ok_bind]
        exact collectList_endless restart path (i + 1) items rest (later.resolve_left here)

end

end Again

/-- A trace with a null list item never has its walk end: each start from the root meets that
item and starts again, so the walk fails however many starts the recursion limit allows. -/
theorem walkFromRoot_endless {root : Value} (endless : NullItem root) :
    ∀ depth path acc, walkFromRoot root depth path acc = .error endlessWalk
  | 0, _, _ => rfl
  | depth + 1, path, acc => collectItems_endless (walkFromRoot_endless endless depth) path acc root endless

theorem selectItems_ends (trace : Value) : WalkEnds (NullItem trace) (selectItems trace) :=
  ⟨fun endless => walkFromRoot_endless endless restartLimit [] [],
    collectItems_ok (walkFromRoot trace (restartLimit - 1)) [] [] trace⟩

theorem selectItems_endless_iff (trace : Value) :
    selectItems trace = .error endlessWalk ↔ NullItem trace := by
  refine ⟨fun endless => ?_, (selectItems_ends trace).1⟩
  refine Classical.byContradiction fun ends => ?_
  obtain ⟨items, walked⟩ := (selectItems_ends trace).2 ends
  rw [walked] at endless
  cases endless

/-- A single walk, with starting again endless at once, finds whether a trace holds a null
list item. -/
theorem collectItems_endless_iff (trace : Value) :
    collectItems (fun _ _ => throw endlessWalk) [] [] trace = .error endlessWalk ↔ NullItem trace := by
  refine ⟨fun endless => Classical.byContradiction fun clear => ?_,
    collectItems_endless (fun _ _ => rfl) [] [] trace⟩
  obtain ⟨items, walked⟩ := collectItems_ok _ [] [] trace clear
  rw [walked] at endless
  cases endless

instance decidableNullItem (trace : Value) : Decidable (NullItem trace) :=
  decidable_of_iff _ (collectItems_endless_iff trace)

theorem textField_ne_endless (owner fieldName : String) (v : Value) :
    textField owner fieldName v ≠ .error endlessWalk := by
  cases v <;> simp [textField, throw_eq_error, pure_ne_error, endlessWalk, Failure.badValue, Failure.make]

theorem argumentOfValue_ne_endless (name : String) (v : Value) :
    argumentOfValue name v ≠ .error endlessWalk := by
  cases v <;> simp [argumentOfValue, throw_eq_error, pure_ne_error, endlessWalk, Failure.wrongType, Failure.make]

theorem iterate_ne_endless (v : Value) : v.iterate ≠ .error endlessWalk := by
  cases v <;> simp [Value.iterate, throw_eq_error, pure_ne_error, endlessWalk, Failure.wrongType, Failure.make]

theorem dialectOf_ne_endless (name : String) : dialectOf name ≠ .error endlessWalk := by
  unfold dialectOf
  split <;> simp [unknownDialect, throw_eq_error, pure_ne_error, endlessWalk, Failure.wrongType, Failure.make]

theorem orderTerms_ne_endless (trace : Value) : orderTerms trace ≠ .error endlessWalk := by
  unfold orderTerms
  split
  · split
    · exact pure_ne_error _ _
    · refine bind_ne_error (iterate_ne_endless _) fun terms => ?_
      refine bind_ne_error (mapM_ne_error terms _ fun t _ => argumentOfValue_ne_endless "query" t) fun args => ?_
      exact pure_ne_error _ _
  · exact pure_ne_error _ _

theorem cohortOn_ne_endless (trace : Value) : cohortOn trace ≠ .error endlessWalk := by
  unfold cohortOn
  refine bind_ne_error (argumentOfValue_ne_endless "query" _) fun arg => ?_
  split
  · split <;> exact pure_ne_error _ _
  · exact pure_ne_error _ _

theorem groupStatements_ne_endless (name : String) (candidates : List String) :
    groupStatements name candidates ≠ .error endlessWalk := by
  unfold groupStatements
  refine bind_ne_error (forIn_ne_error _ _ _ fun s _ kept => ?_) fun kept => pure_ne_error _ _
  split
  · exact pure_ne_error _ _
  · refine bind_ne_error (dialectOf_ne_endless name) fun d => ?_
    split <;> exact pure_ne_error _ _

theorem filterSet_ne_endless (name : String) (trace : Value) :
    filterSet name trace ≠ .error endlessWalk := by
  unfold filterSet
  split
  · exact pure_ne_error _ _
  · split
    · exact pure_ne_error _ _
    · refine bind_ne_error (iterate_ne_endless _) fun filters => ?_
      refine bind_ne_error (forIn_ne_error _ _ _ fun f _ fs => ?_) fun fs => ?_
      · refine bind_ne_error (argumentOfValue_ne_endless "query" f) fun arg => ?_
        refine bind_ne_error (dialectOf_ne_endless name) fun d => ?_
        split
        · -- a filter with no call is refused, as a wrong type and not as an endless walk
          simp [throw_eq_error, endlessWalk, Failure.wrongType, Failure.make, Functor.map, Except.map]
        · split <;> exact pure_ne_error _ _
      · split <;> exact pure_ne_error _ _

/-- Tokenizing a trace fails as an endless walk, never ending in the original, exactly when
one of the trace's lists, reached through its non-null mapping values and list items, holds a
null item. -/
theorem tokenize_endless_iff (trace modelSql targetName : Value) (dialect : String) :
    tokenize trace modelSql targetName (.str dialect) = .error endlessWalk ↔ NullItem trace := by
  unfold tokenize
  rw [show textField "Dialect" "type" (.str dialect) = .ok dialect from rfl, ok_bind]
  by_cases endless : NullItem trace
  · rw [(selectItems_ends trace).1 endless, error_bind]
    exact ⟨fun _ => endless, fun _ => rfl⟩
  · obtain ⟨items, walked⟩ := (selectItems_ends trace).2 endless
    rw [walked, ok_bind]
    refine ⟨fun fails => absurd fails ?_, fun holds => absurd holds endless⟩
    refine bind_ne_error (orderTerms_ne_endless trace) fun order => ?_
    refine bind_ne_error (cohortOn_ne_endless trace) fun cohort => ?_
    refine bind_ne_error (groupStatements_ne_endless _ _) fun group => ?_
    refine bind_ne_error (filterSet_ne_endless _ trace) fun ⟨filters, warnings⟩ => ?_
    refine bind_ne_error (cohortOn_ne_endless trace) fun cohort => ?_
    refine bind_ne_error (textField_ne_endless _ _ _) fun sql => ?_
    exact bind_ne_error (textField_ne_endless _ _ _) fun target => pure_ne_error _ _

example : NullItem (.record [("name", .str "t"), ("props", .record [("x", .list [.int 1, .none])])]) := by
  decide

end Dashwright.Query
