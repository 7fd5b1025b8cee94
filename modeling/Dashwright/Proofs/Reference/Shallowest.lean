import Dashwright.Proofs.Reference.Pruning
import Dashwright.Proofs.Reference.Unfolding

/-!
Where the navigation keeps an object. Unfolding a schema whose mappings have text keys gives a
structure whose mappings have text keys, no two alike (`unfoldModel_keyed`): every key it sets
is a property's name, an object's name or a capitalised group, and setting a key that is there
already keeps its place. Pruning such a structure keeps every path only where it was a path of
the structure at its key's shallowest depth (`modelsNav_keeps_shallowest`).

Pruning may take away an object altogether: an object listed by name only under `layout` at
the top is shallower than the same object unfolded deeper down, so the deeper one goes, with
everything under it, and what is under it may be met nowhere else. Pruning may also fail: once a
key of a path is gone, the walk down the path looks the next key up one level too high, and
where a property of that name holds a type rather than a mapping, the walk ends on a text.
-/

namespace Dashwright.Reference

/-- Entries with text keys, no two alike, each holding a structure with text keys. -/
def KeyedEntries (es : List (Value × Value)) : Prop :=
  (∀ e ∈ es, ∃ s, e.1 = .str s) ∧ (es.map Prod.fst).Nodup ∧ ∀ e ∈ es, TextKeyed e.2

theorem textKeyed_map_iff {es : List (Value × Value)} {locs} : TextKeyed (.map es locs) ↔ KeyedEntries es := by
  constructor
  · intro keyed
    cases keyed with
    | map texts distinct each => exact ⟨texts, distinct, each⟩
    | other notMap => exact absurd rfl (notMap es locs)
  · rintro ⟨texts, distinct, each⟩
    exact .map texts distinct each

theorem keyedEntries_nil : KeyedEntries [] :=
  ⟨fun _ member => (by cases member), List.nodup_nil, fun _ member => (by cases member)⟩

theorem textKeyed_emptyDict : TextKeyed emptyDict := textKeyed_map_iff.mpr keyedEntries_nil

section Entries

variable {es : List (Value × Value)} {k v : Value}

theorem mem_of_lookupEntry (found : lookupEntry k es = some v) : ∃ k', (k', v) ∈ es := by
  induction es with
  | nil => cases found
  | cons e rest ih =>
    obtain ⟨k2, v2⟩ := e
    unfold lookupEntry at found
    split at found
    · cases found
      exact ⟨k2, List.mem_cons_self⟩
    · obtain ⟨k', member⟩ := ih found
      exact ⟨k', List.mem_cons_of_mem _ member⟩

theorem keys_insertEntry {x : Value} (member : x ∈ (insertEntry k v es).map Prod.fst) :
    x ∈ es.map Prod.fst ∨ x = k := by
  induction es with
  | nil =>
    simp only [insertEntry, List.map_cons, List.map_nil, List.mem_singleton] at member
    exact .inr member
  | cons e rest ih =>
    obtain ⟨k2, v2⟩ := e
    unfold insertEntry at member
    split at member
    · exact .inl member
    · rcases List.mem_cons.mp member with rfl | later
      · exact .inl List.mem_cons_self
      · rcases ih later with earlier | same
        · exact .inl (List.mem_cons_of_mem _ earlier)
        · exact .inr same

theorem insertEntry_keyed (keyed : KeyedEntries es) (text : ∃ s, k = .str s) (inner : TextKeyed v) :
    KeyedEntries (insertEntry k v es) := by
  induction es with
  | nil =>
    refine ⟨?_, List.nodup_singleton _, ?_⟩ <;> intro e member <;>
      rw [insertEntry, List.mem_singleton] at member <;> subst member
    · exact text
    · exact inner
  | cons e rest ih =>
    obtain ⟨k2, v2⟩ := e
    obtain ⟨texts, distinct, each⟩ := keyed
    rw [List.map_cons, List.nodup_cons] at distinct
    have restKeyed : KeyedEntries rest := ⟨fun e member => texts e (List.mem_cons_of_mem _ member),
      distinct.2, fun e member => each e (List.mem_cons_of_mem _ member)⟩
    unfold insertEntry
    split
    · -- the key is there: its entry takes the new structure and keeps its key
      refine ⟨fun e member => ?_, ?_, fun e member => ?_⟩
      · rcases List.mem_cons.mp member with rfl | later
        · exact texts (k2, v2) List.mem_cons_self
        · exact texts e (List.mem_cons_of_mem _ later)
      · rw [List.map_cons, List.nodup_cons]
        exact distinct
      · rcases List.mem_cons.mp member with rfl | later
        · exact inner
        · exact each e (List.mem_cons_of_mem _ later)
    · next unequal =>
      obtain ⟨texts', distinct', each'⟩ := ih restKeyed
      have other : k2 ≠ k := by
        rintro rfl
        exact unequal (equal_self_of_text (texts _ List.mem_cons_self))
      refine ⟨fun e member => ?_, ?_, fun e member => ?_⟩
      · rcases List.mem_cons.mp member with rfl | later
        · exact texts _ List.mem_cons_self
        · exact texts' e later
      · rw [List.map_cons, List.nodup_cons]
        refine ⟨fun inside => ?_, distinct'⟩
        rcases keys_insertEntry inside with earlier | same
        · exact distinct.1 earlier
        · exact other same
      · rcases List.mem_cons.mp member with rfl | later
        · exact each _ List.mem_cons_self
        · exact each' e later

end Entries

section Reading

variable {owner key dflt v : Value}

theorem getOr_keyed (keyed : TextKeyed owner) (fallback : TextKeyed dflt) (found : getOr owner key dflt = .ok v) :
    TextKeyed v := by
  unfold getOr at found
  split at found
  · split at found
    · cases found
      cases lookup : lookupEntry key _ with
      | none => exact fallback
      | some w =>
        obtain ⟨k', member⟩ := mem_of_lookupEntry lookup
        exact keyed.of_mem member
    · cases found
  · cases found

theorem getText_keyed {name : String} (keyed : TextKeyed owner) (fallback : TextKeyed dflt)
    (found : getText owner name dflt = .ok v) : TextKeyed v :=
  getOr_keyed keyed fallback found

theorem definitionOf_keyed {schema d : Value} {name : String} (keyed : TextKeyed schema)
    (found : definitionOf schema name = .ok d) : TextKeyed d := by
  obtain ⟨defs, defsFound, defFound⟩ := bind_eq_ok found
  exact getText_keyed (getText_keyed keyed textKeyed_emptyDict defsFound) textKeyed_emptyDict defFound

theorem sortedItems_keyed {items : List (Value × Value)} (keyed : TextKeyed v) (sorted : sortedItems v = .ok items) :
    ∀ e ∈ items, (∃ s, e.1 = .str s) ∧ TextKeyed e.2 := by
  cases v with
  | map es locs =>
    obtain ⟨texts, -, each⟩ := textKeyed_map_iff.mp keyed
    intro e member
    have inside := (sortedItems_perm sorted).subset member
    exact ⟨texts e inside, each e inside⟩
  | _ =>
    obtain ⟨es, listed, -⟩ := bind_eq_ok sorted
    cases listed

theorem groupOf_text {field group : Value} (found : groupOf field = .ok group) : ∃ s, group = .str s := by
  unfold groupOf at found
  split at found
  · cases found
    exact ⟨_, rfl⟩
  · cases found

theorem insertInside_keyed {outer r : List (Value × Value)} {k : Value} (keyed : KeyedEntries outer)
    (keyText : ∃ s, key = .str s) (text : ∃ s, k = .str s) (inner : TextKeyed v)
    (done : insertInside outer key k v = .ok r) : KeyedEntries r := by
  unfold insertInside at done
  split at done
  · next es locs found =>
    cases done
    -- the group is a mapping of the entries, so it keeps text keys with one more set
    obtain ⟨k', member⟩ := mem_of_lookupEntry found
    have group := textKeyed_map_iff.mp (keyed.2.2 _ member)
    exact insertEntry_keyed keyed keyText (textKeyed_map_iff.mpr (insertEntry_keyed group text inner))
  · cases done
  · cases done

end Reading

theorem textKeyed_str (s : String) : TextKeyed (.str s) := .other fun _ _ same => by cases same

theorem property_keyed {m props : Value} {items pref suff : List (Value × Value)} {cur : Value × Value}
    (keyedModel : TextKeyed m) (found : getText m "properties" emptyDict = .ok props)
    (sorted : sortedItems props = .ok items) (split : items = pref ++ cur :: suff) :
    (∃ s, cur.1 = .str s) ∧ TextKeyed cur.2 :=
  sortedItems_keyed (getText_keyed keyedModel textKeyed_emptyDict found) sorted cur (by simp [split])

section Unfold

open Std.Do

set_option mvcgen.warning false

theorem unfoldModel_keyed_step (schema m : Value) (fuel : Nat) (keyedSchema : TextKeyed schema)
    (keyedModel : TextKeyed m)
    (below : ∀ d v, TextKeyed d → unfoldModel schema fuel d = .ok v → TextKeyed v) :
    ⦃⌜True⌝⦄ unfoldModel schema (fuel + 1) m ⦃post⟨fun v => ⌜TextKeyed v⌝, fun _ => ⌜True⌝⟩⦄ := by
  have hText := fun m k d => Value.triple_ok_eq (getText m k d)
  have hSorted := fun v => Value.triple_ok_eq (sortedItems v)
  have hRefs := fun v => Value.triple_ok_eq (refsOf v)
  have hLast := fun v => Value.triple_ok_eq (lastSegment v)
  have hDef := fun n => Value.triple_ok_eq (definitionOf schema n)
  have hUnfold := fun v => Value.triple_ok_eq (unfoldModel schema fuel v)
  have hGroup := fun v => Value.triple_ok_eq (groupOf v)
  have hInside := fun o k a b => Value.triple_ok_eq (insertInside o k a b)
  simp only [unfoldModel]
  -- every entry set has a text key and a structure with text keys
  mvcgen [hText, hSorted, hRefs, hLast, hDef, hUnfold, hGroup, hInside] invariants
  | inv1 => post⟨fun r => ⌜KeyedEntries r.2⌝, fun _ => ⌜True⌝⟩
  | inv2 => post⟨fun r => ⌜KeyedEntries r.2⌝, fun _ => ⌜True⌝⟩
  | inv3 => post⟨fun r => ⌜KeyedEntries r.2⌝, fun _ => ⌜True⌝⟩
  | inv4 => post⟨fun r => ⌜KeyedEntries r.2⌝, fun _ => ⌜True⌝⟩
  case vc1.step.success.success.success =>
    exact insertEntry_keyed ‹_› ⟨_, rfl⟩ (below _ _ (definitionOf_keyed keyedSchema ‹_›) ‹_›)
  case vc8.step.success.success => exact insertEntry_keyed ‹_› ⟨_, rfl⟩ textKeyed_emptyDict
  case vc14.step.success.success.success.success =>
    exact insertInside_keyed ‹_› (groupOf_text ‹_›) ⟨_, rfl⟩
      (below _ _ (definitionOf_keyed keyedSchema ‹_›) ‹_›) ‹_›
  case vc19.step.success.isFalse.isFalse.isTrue.success.pre =>
    exact insertEntry_keyed ‹_› (groupOf_text ‹_›) textKeyed_emptyDict
  case vc23.step.success.isFalse.isFalse.isFalse.success =>
    -- a property without references keeps its type, read from the property itself
    obtain ⟨text, inner⟩ := property_keyed keyedModel ‹_› ‹_› ‹_›
    exact insertEntry_keyed ‹_› text (getText_keyed inner (textKeyed_str _) ‹_›)
  case vc26.success.success.pre => exact keyedEntries_nil
  case vc27.success.success.post.success => exact textKeyed_map_iff.mpr ‹_›

/-- Unfolding an object of a schema with text keys gives a structure with text keys. -/
theorem unfoldModel_keyed {schema : Value} (keyedSchema : TextKeyed schema) :
    ∀ fuel m v, TextKeyed m → unfoldModel schema fuel m = .ok v → TextKeyed v
  | 0, _, _, _, unfolded => by cases unfolded
  | fuel + 1, m, _, keyedModel, unfolded =>
    Value.ok_of_triple (unfoldModel_keyed_step schema m fuel keyedSchema keyedModel
      (unfoldModel_keyed keyedSchema fuel)) unfolded

end Unfold

/-- The text of a key, if it is one. -/
def textKey : Value → Option String
  | .str s => some s
  | _ => none

mutual

/-- Whether every mapping of a structure has text keys, no two alike. -/
def keyedCheck : Value → Bool
  | .map es _ => entriesCheck es && decide ((es.map fun e => textKey e.1).Nodup)
  | _ => true

def entriesCheck : List (Value × Value) → Bool
  | [] => true
  | (k, v) :: rest => (textKey k).isSome && keyedCheck v && entriesCheck rest

end

theorem text_of_textKey {k : Value} (named : (textKey k).isSome = true) : ∃ s, k = .str s := by
  cases k with
  | str s => exact ⟨s, rfl⟩
  | _ => cases named

mutual

theorem textKeyed_of_check : ∀ v : Value, keyedCheck v = true → TextKeyed v
  | .map es locs, checked => by
    simp only [keyedCheck, Bool.and_eq_true, decide_eq_true_eq] at checked
    obtain ⟨each, distinct⟩ := checked
    have entries := entries_of_check es each
    refine .map (fun e member => (entries e member).1) ?_ (fun e member => (entries e member).2)
    have keys : ((es.map Prod.fst).map textKey).Nodup := by
      rw [List.map_map]
      exact distinct
    exact keys.of_map textKey
  | .none, _ | .bool _, _ | .int _, _ | .float _, _ | .str _, _ | .bytes _, _ | .date _, _ | .moment _, _
  | .list _, _ | .tuple _, _ | .set _, _ | .cycle _, _ | .range _ _ _, _ | .complex _ _, _
  | .classObject _, _ => .other fun _ _ same => by cases same

theorem entries_of_check : ∀ es : List (Value × Value), entriesCheck es = true →
    ∀ e ∈ es, (∃ s, e.1 = .str s) ∧ TextKeyed e.2
  | [], _ => fun _ member => by cases member
  | (k, v) :: rest, checked => by
    simp only [entriesCheck, Bool.and_eq_true] at checked
    obtain ⟨⟨named, inner⟩, later⟩ := checked
    intro e member
    rcases List.mem_cons.mp member with rfl | after
    · exact ⟨text_of_textKey named, textKeyed_of_check v inner⟩
    · exact entries_of_check rest later e after

end

/-- Every path of the structure the navigation is built from was a path of the unfolded schema,
at the shallowest depth of its key there. -/
theorem modelsNav_keeps_shallowest {schema S P : Value} (keyed : TextKeyed schema)
    (unfolded : unfoldModel schema 990 schema = .ok S) (pruned : prune S = .ok P) :
    ∀ e ∈ keyPaths [] P, e ∈ keyPaths [] S ∧ ∀ q, (e.1, q) ∈ keyPaths [] S → e.2.length ≤ q.length := by
  rintro ⟨k, p⟩ kept
  exact prune_keeps_shallowest (unfoldModel_keyed keyed 990 schema S keyed unfolded) pruned kept

/-- A schema whose object `B` is met under `A` and, by name only, under `layout` at the top. -/
def layoutSchema : Value := Value.record [
  ("$defs", Value.record [
    ("A", Value.record [("properties", Value.record [("b", Value.record [("items", Value.record [("$ref", .str "#/$defs/B")])])])]),
    ("B", Value.record [("properties", Value.record [("m", Value.record [("items", Value.record [("$ref", .str "#/$defs/M")])])])]),
    ("M", Value.record [("properties", Value.record [("v", Value.record [("type", .str "string")])])])]),
  ("properties", Value.record [
    ("a", Value.record [("items", Value.record [("$ref", .str "#/$defs/A")])]),
    ("layout", Value.record [("items", Value.record [("$ref", .str "#/$defs/B")])])])]

/-- The structure of the layout schema is kept at the shallowest depths. -/
theorem modelsNav_keeps_shallowest_layout :
    ∃ S P, unfoldModel layoutSchema 990 layoutSchema = .ok S ∧ prune S = .ok P ∧
      ∀ e ∈ keyPaths [] P, e ∈ keyPaths [] S ∧ ∀ q, (e.1, q) ∈ keyPaths [] S → e.2.length ≤ q.length := by
  have keyed : TextKeyed layoutSchema := textKeyed_of_check _ (by decide +kernel)
  have runs : (unfoldModel layoutSchema 990 layoutSchema >>= prune).toBool = true := by decide +kernel
  cases unfolded : unfoldModel layoutSchema 990 layoutSchema with
  | error e =>
    rw [unfolded] at runs
    cases runs
  | ok S =>
    rw [unfolded, ok_bind] at runs
    cases pruned : prune S with
    | error e =>
      rw [pruned] at runs
      cases runs
    | ok P => exact ⟨S, P, rfl, pruned, modelsNav_keeps_shallowest keyed unfolded pruned⟩

/-- The unfolded `B` under `A`, deeper than the `B` listed under `layout`, is pruned with the `M`
below it, and `M`, met nowhere else, gets no entry. -/
theorem layout_hides_deeper_model :
    (match modelsNav layoutSchema with
      | .ok nav => Value.equal nav (.list [Value.record [("A", .list [.str "reference/configuration/A/index.md"])],
          Value.record [("B", .list [.str "reference/configuration/B/index.md"])]])
      | .error _ => false) = true := by
  decide +kernel

end Dashwright.Reference
