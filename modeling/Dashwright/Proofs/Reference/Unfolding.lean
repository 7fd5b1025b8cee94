import Mathlib
import Dashwright.Reference.Nav
import Dashwright.Proofs.Value.Sorting

/-!
Unfolding the structure of a schema follows its references with no record of the objects
already unfolded, so a cycle of references never ends it. The unfolding of an object gives an
answer only if the unfolding of every object it refers to through a property that is not
`props` or `layout` does, at one level less (`unfoldModel_unfolds`). A set of objects each of
which refers so to another of the set therefore fails at every depth
(`unfoldModel_fails_of_closed`), and a schema whose top object is in such a set has no
navigation.
-/

namespace Dashwright.Reference

open Std.Do

set_option mvcgen.warning false

theorem sortedItems_perm {es items : List (Value × Value)} {locs}
    (sorted : sortedItems (.map es locs) = .ok items) : items.Perm es := by
  have moved := Value.sortByKeys_perm sorted
  simpa [List.map_map, Function.comp_def] using moved

section Unfolding

variable {schema : Value} {fuel : Nat}

/-- The object a reference names unfolds at the depth left, whenever it is found. -/
def RefUnfolds (schema : Value) (fuel : Nat) (ref : Value) : Prop :=
  ∀ name d, lastSegment ref = .ok name → definitionOf schema name = .ok d →
    ∃ v, unfoldModel schema fuel d = .ok v

/-- Every object a property refers to unfolds, unless the property lists its objects by name
only. -/
def FieldUnfolds (schema : Value) (fuel : Nat) (entry : Value × Value) : Prop :=
  ∀ refs kind, refsOf entry.2 = .ok (refs, kind) → namesOnly entry.1 = false →
    ∀ ref ∈ refs, RefUnfolds schema fuel ref

theorem refUnfolds_of_ok {ref d v : Value} {name : String} (last : lastSegment ref = .ok name)
    (defn : definitionOf schema name = .ok d) (unfolded : unfoldModel schema fuel d = .ok v) :
    RefUnfolds schema fuel ref := by
  intro name' d' last' defn'
  rw [last] at last'
  cases last'
  rw [defn] at defn'
  cases defn'
  exact ⟨v, unfolded⟩

variable {entry : Value × Value} {r : List Value × Option RefKind}

theorem fieldUnfolds_of_refs (found : refsOf entry.2 = .ok r)
    (each : ∀ ref ∈ r.1, RefUnfolds schema fuel ref) : FieldUnfolds schema fuel entry := by
  intro refs kind found' _
  rw [found] at found'
  cases found'
  exact each

theorem fieldUnfolds_of_namesOnly (names : namesOnly entry.1 = true) :
    FieldUnfolds schema fuel entry := by
  intro _ _ _ plain
  rw [names] at plain
  cases plain

theorem fieldUnfolds_of_no_refs (found : refsOf entry.2 = .ok r) (empty : r.1 = []) :
    FieldUnfolds schema fuel entry := by
  refine fieldUnfolds_of_refs found fun ref member => ?_
  rw [empty] at member
  cases member

theorem refs_empty_of_passed {refs : List Value} {kind : Option RefKind} {names : Bool}
    (unfolded : ¬(!refs.isEmpty && !names && kind != some .oneOf) = true)
    (listed : ¬(!refs.isEmpty && names) = true)
    (grouped : ¬(!refs.isEmpty && kind == some .oneOf) = true) : refs = [] := by
  cases refs with
  | nil => rfl
  | cons ref rest =>
    cases names <;> cases choice : (kind == some .oneOf) <;> simp_all [bne]

/-- When an object unfolds, so did every object its properties refer to, other than those
listed by name only, one level deeper. -/
theorem unfoldModel_spec (schema m : Value) (fuel : Nat) :
    ⦃⌜True⌝⦄ unfoldModel schema (fuel + 1) m
    ⦃post⟨fun _ => ⌜∀ props, getText m "properties" emptyDict = .ok props →
      ∃ items, sortedItems props = .ok items ∧ ∀ entry ∈ items, FieldUnfolds schema fuel entry⌝,
      fun _ => ⌜True⌝⟩⦄ := by
  have hText := fun m k d => Value.triple_ok_eq (getText m k d)
  have hSorted := fun v => Value.triple_ok_eq (sortedItems v)
  have hRefs := fun v => Value.triple_ok_eq (refsOf v)
  have hLast := fun v => Value.triple_ok_eq (lastSegment v)
  have hDef := fun n => Value.triple_ok_eq (definitionOf schema n)
  have hUnfold := fun v => Value.triple_ok_eq (unfoldModel schema fuel v)
  have hGroup := fun v => Value.triple_ok_eq (groupOf v)
  have hInside := fun o k a b => Value.triple_ok_eq (insertInside o k a b)
  simp only [unfoldModel]
  -- the properties gone through unfolded what they ask for; inside a property, the references
  -- gone through did
  mvcgen [hText, hSorted, hRefs, hLast, hDef, hUnfold, hGroup, hInside] invariants
  | inv1 => post⟨fun ⟨cur, _⟩ => ⌜∀ entry ∈ cur.prefix, FieldUnfolds schema fuel entry⌝,
      fun _ => ⌜True⌝⟩
  | inv2 => post⟨fun ⟨cur, _⟩ => ⌜∀ ref ∈ cur.prefix, RefUnfolds schema fuel ref⌝, fun _ => ⌜True⌝⟩
  | inv3 => post⟨fun _ => ⌜True⌝, fun _ => ⌜True⌝⟩
  | inv4 => post⟨fun ⟨cur, _⟩ => ⌜∀ ref ∈ cur.prefix, RefUnfolds schema fuel ref⌝, fun _ => ⌜True⌝⟩
  with grind -ring -linarith [refUnfolds_of_ok, fieldUnfolds_of_refs, fieldUnfolds_of_namesOnly,
    fieldUnfolds_of_no_refs, refs_empty_of_passed]

theorem unfoldModel_unfolds {m v : Value} (unfolded : unfoldModel schema (fuel + 1) m = .ok v)
    {es : List (Value × Value)} {locs} (props : getText m "properties" emptyDict = .ok (.map es locs))
    (member : entry ∈ es) : FieldUnfolds schema fuel entry := by
  obtain ⟨items, sorted, all⟩ :=
    Value.ok_of_triple (unfoldModel_spec schema m fuel) unfolded _ props
  exact all entry ((sortedItems_perm sorted).mem_iff.mpr member)

end Unfolding

/-- The unfolding of `m` unfolds `d`: a property of `m` that lists no objects by name only refers
to an object whose definition is `d`. -/
def UnfoldsInto (schema m d : Value) : Prop :=
  ∃ es locs field data refs kind ref name,
    getText m "properties" emptyDict = .ok (.map es locs) ∧ (field, data) ∈ es ∧
    refsOf data = .ok (refs, kind) ∧ namesOnly field = false ∧ ref ∈ refs ∧
    lastSegment ref = .ok name ∧ definitionOf schema name = .ok d

/-- Objects each of which unfolds one of them never finish unfolding, whatever the depth
allowed. -/
theorem unfoldModel_fails_of_closed {schema : Value} (S : Value → Prop)
    (closed : ∀ m, S m → ∃ d, S d ∧ UnfoldsInto schema m d) (fuel : Nat) {m : Value}
    (start : S m) : ∃ e, unfoldModel schema fuel m = .error e := by
  induction fuel generalizing m with
  | zero => exact ⟨_, rfl⟩
  | succ fuel ih =>
    cases unfolded : unfoldModel schema (fuel + 1) m with
    | error e => exact ⟨e, rfl⟩
    | ok v =>
      -- the object `m` unfolds into is in the set too, and its unfolding one level deeper fails
      obtain ⟨d, next, es, locs, field, data, refs, kind, ref, name,
        props, member, found, plain, isRef, last, defn⟩ := closed m start
      obtain ⟨v', deeper⟩ :=
        unfoldModel_unfolds unfolded props member refs kind found plain ref isRef name d last defn
      obtain ⟨e, fails⟩ := ih next
      rw [fails] at deeper
      cases deeper

/-- A schema whose top object reaches a cycle of references through properties that unfold
their objects has no navigation, and no limit on the depth of unfolding would give it one. -/
theorem modelsNav_fails_of_cycle {schema : Value} (S : Value → Prop)
    (closed : ∀ m, S m → ∃ d, S d ∧ UnfoldsInto schema m d) (top : S schema) :
    (∀ fuel, ∃ e, unfoldModel schema fuel schema = .error e) ∧
      ∃ e, modelsNav schema = .error e := by
  refine ⟨fun fuel => unfoldModel_fails_of_closed S closed fuel top, ?_⟩
  obtain ⟨e, fails⟩ := unfoldModel_fails_of_closed S closed 990 top
  exact ⟨e, by rw [modelsNav, fails]; rfl⟩

@[simp] theorem getText_record_cons (k key : String) (v d : Value) (rest : List (String × Value)) :
    getText (Value.record ((k, v) :: rest)) key d =
      if key = k then .ok v else getText (Value.record rest) key d := by
  by_cases same : key = k
  · simp [getText, getOr, Value.record, lookupEntry, Value.equal, Value.hashable, same, pure, Except.pure]
  · simp [getText, getOr, Value.record, lookupEntry, Value.equal, Value.hashable, same]

@[simp] theorem getText_record_nil (key : String) (d : Value) :
    getText (Value.record []) key d = .ok d := rfl

@[simp] theorem getText_emptyDict (key : String) (d : Value) : getText emptyDict key d = .ok d := rfl

/-- A property that may hold a `Self` object. -/
def selfRef : Value :=
  Value.record [("anyOf", .list [Value.record [("$ref", .str "#/$defs/Self")]])]

/-- An object whose one property may hold another of its own kind. -/
def selfDefinition : Value := Value.record [("properties", Value.record [("child", selfRef)])]

def selfSchema : Value :=
  Value.record [("$defs", Value.record [("Self", selfDefinition)]),
    ("properties", Value.record [("s", selfRef)])]

theorem selfRef_unfolds {m : Value} (field : String)
    (props : getText m "properties" emptyDict = .ok (Value.record [(field, selfRef)]))
    (plain : namesOnly (.str field) = false) : UnfoldsInto selfSchema m selfDefinition := by
  refine ⟨_, _, .str field, selfRef, [.str "#/$defs/Self"], some .anyOf, .str "#/$defs/Self", "Self",
    props, List.mem_singleton_self _, ?_, plain, List.mem_singleton_self _, ?_, ?_⟩
  · simp [selfRef, refsOf, entryRefs, Value.iterate, Value.truthy, pure, Except.pure]
  · decide +kernel
  · simp [definitionOf, selfSchema]

/-- The schema of a self-referring object has no navigation: its top object and the object
unfold into the object. -/
theorem selfReference_has_no_nav :
    (∀ m, UnfoldsInto selfSchema m selfDefinition →
      ∃ d, UnfoldsInto selfSchema d selfDefinition ∧ UnfoldsInto selfSchema m d) ∧
    UnfoldsInto selfSchema selfSchema selfDefinition ∧
    ((∀ fuel, ∃ e, unfoldModel selfSchema fuel selfSchema = .error e) ∧
      ∃ e, modelsNav selfSchema = .error e) := by
  have loop : UnfoldsInto selfSchema selfDefinition selfDefinition :=
    selfRef_unfolds "child" (by simp [selfDefinition]) (by decide +kernel)
  have top : UnfoldsInto selfSchema selfSchema selfDefinition :=
    selfRef_unfolds "s" (by simp [selfSchema]) (by decide +kernel)
  have closed : ∀ m, UnfoldsInto selfSchema m selfDefinition →
      ∃ d, UnfoldsInto selfSchema d selfDefinition ∧ UnfoldsInto selfSchema m d :=
    fun _ into => ⟨selfDefinition, loop, into⟩
  exact ⟨closed, top, modelsNav_fails_of_cycle (fun m => UnfoldsInto selfSchema m selfDefinition)
    closed top⟩

end Dashwright.Reference
