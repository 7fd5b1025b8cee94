import Mathlib
import Dashwright.Reference.Nav
import Dashwright.Proofs.Value.Texts
import Dashwright.Proofs.Value.Sorting

/-!
Pruning the structure of the reference pages. The structure lists, for every key that holds a
mapping, the path of keys leading to it (`keyPaths`); pruning removes, one after another, the
paths of a key that are longer than its shortest path. A removal walks down its path and passes
over a key that an earlier removal took away, so it may remove some other key there; but on a
structure whose mappings have text keys, no two alike, every path it keeps was a path of the
structure and no path of its key was shorter (`prune_keeps_shallowest`).

Paths are read through `Reaches`, a walk down the entries of the mappings, so that a removal
and a walk are compared on the same terms.
-/

namespace Dashwright.Reference

/-- A walk from a value down through the entries of its mappings, along a path of keys. -/
inductive Reaches : Value → List Value → Value → Prop
  | here (v : Value) : Reaches v [] v
  | into {es : List (Value × Value)} {locs : Option (List (Value × String × String))}
      {k v w : Value} {ks : List Value} :
      (k, v) ∈ es → Reaches v ks w → Reaches (.map es locs) (k :: ks) w

/-- A path of keys leads from a value to a mapping. -/
def HoldsMap (v : Value) (ks : List Value) : Prop :=
  ∃ es locs, Reaches v ks (.map es locs)

theorem holdsMap_nil {v : Value} : HoldsMap v [] ↔ ∃ es locs, v = .map es locs := by
  constructor
  · rintro ⟨es, locs, reach⟩
    cases reach
    exact ⟨es, locs, rfl⟩
  · rintro ⟨es, locs, rfl⟩
    exact ⟨es, locs, .here _⟩

theorem holdsMap_cons {v k : Value} {ks : List Value} :
    HoldsMap v (k :: ks) ↔ ∃ es locs, v = .map es locs ∧ ∃ w, (k, w) ∈ es ∧ HoldsMap w ks := by
  constructor
  · rintro ⟨es', locs', reach⟩
    cases reach with
    | into member rest => exact ⟨_, _, rfl, _, member, _, _, rest⟩
  · rintro ⟨es, locs, rfl, w, member, es', locs', rest⟩
    exact ⟨es', locs', .into member rest⟩

theorem not_holdsMap_cons {v k : Value} {ks : List Value} (notMap : ∀ es locs, v ≠ .map es locs) :
    ¬ HoldsMap v (k :: ks) := by
  rintro ⟨es, locs, reach⟩
  cases reach
  exact notMap _ _ rfl

mutual

theorem mem_keyPaths (path : List Value) (k : Value) (q : List Value) : ∀ v : Value,
    (k, q) ∈ keyPaths path v ↔ ∃ rel, q = path ++ rel ∧ rel.getLast? = some k ∧ HoldsMap v rel
  | .map es locs => by
    rw [keyPaths, mem_entryPaths path k q es]
    constructor
    · rintro ⟨k0, v0, rel, member, rfl, last, holds⟩
      exact ⟨k0 :: rel, rfl, last, holdsMap_cons.mpr ⟨es, locs, rfl, v0, member, holds⟩⟩
    · rintro ⟨rel, rfl, last, holds⟩
      cases rel with
      | nil => cases last
      | cons k0 rel =>
        obtain ⟨es', locs', same, v0, member, holds'⟩ := holdsMap_cons.mp holds
        cases same
        exact ⟨k0, v0, rel, member, rfl, last, holds'⟩
  | .none | .bool _ | .int _ | .float _ | .str _ | .bytes _ | .date _ | .moment _ | .list _
  | .tuple _ | .set _ | .cycle _ | .range _ _ _ | .complex _ _ | .classObject _ => by
    simp only [keyPaths, List.not_mem_nil, false_iff, not_exists, not_and]
    intro rel _ last holds
    cases rel with
    | nil => cases last
    | cons k0 rel => exact not_holdsMap_cons (fun _ _ same => by cases same) holds

theorem mem_entryPaths (path : List Value) (k : Value) (q : List Value) :
    ∀ es : List (Value × Value), (k, q) ∈ entryPaths path es ↔
      ∃ k0 v0 rel, (k0, v0) ∈ es ∧ q = path ++ k0 :: rel ∧ (k0 :: rel).getLast? = some k ∧
        HoldsMap v0 rel
  | [] => by simp [entryPaths]
  | (k0, v0) :: rest => by
    have below := mem_keyPaths (path ++ [k0]) k q v0
    have later := mem_entryPaths path k q rest
    by_cases isMap : ∃ es0 l0, v0 = .map es0 l0
    · obtain ⟨es0, l0, rfl⟩ := isMap
      rw [entryPaths.eq_2, List.mem_append, List.mem_cons, below, later]
      constructor
      · rintro ((same | ⟨rel, rfl, last, holds⟩) | ⟨k1, v1, rel, member, rfl, last, holds⟩)
        · cases same
          exact ⟨_, _, [], List.mem_cons_self, rfl, rfl, holdsMap_nil.mpr ⟨_, _, rfl⟩⟩
        · cases rel with
          | nil => cases last
          | cons k2 rel =>
            exact ⟨k0, _, k2 :: rel, List.mem_cons_self, by simp, by simpa using last, holds⟩
        · exact ⟨k1, v1, rel, List.mem_cons_of_mem _ member, rfl, last, holds⟩
      · rintro ⟨k1, v1, rel, member, rfl, last, holds⟩
        rcases List.mem_cons.mp member with same | member
        · cases same
          cases rel with
          | nil =>
            simp only [List.getLast?_singleton, Option.some.injEq] at last
            subst last
            exact .inl (.inl rfl)
          | cons k2 rel =>
            exact .inl (.inr ⟨k2 :: rel, by simp, by simpa using last, holds⟩)
        · exact .inr ⟨k1, v1, rel, member, rfl, last, holds⟩
    · rw [entryPaths.eq_3 _ _ _ _ (fun es0 l0 same => isMap ⟨es0, l0, same⟩), List.nil_append, later]
      constructor
      · rintro ⟨k1, v1, rel, member, rfl, last, holds⟩
        exact ⟨k1, v1, rel, List.mem_cons_of_mem _ member, rfl, last, holds⟩
      · rintro ⟨k1, v1, rel, member, rfl, last, holds⟩
        rcases List.mem_cons.mp member with same | member
        · cases same
          cases rel with
          | nil => exact absurd (holdsMap_nil.mp holds) isMap
          | cons k2 rel =>
            obtain ⟨es0, l0, same, -⟩ := holdsMap_cons.mp holds
            exact absurd ⟨es0, l0, same⟩ isMap
        · exact ⟨k1, v1, rel, member, rfl, last, holds⟩

end


theorem mem_paths {v k : Value} {q : List Value} :
    (k, q) ∈ keyPaths [] v ↔ q.getLast? = some k ∧ HoldsMap v q := by
  rw [mem_keyPaths]
  simp

theorem reaches_append {v w : Value} {ks ks' : List Value} :
    Reaches v (ks ++ ks') w ↔ ∃ u, Reaches v ks u ∧ Reaches u ks' w := by
  induction ks generalizing v with
  | nil =>
    constructor
    · intro reach
      exact ⟨v, .here v, reach⟩
    · rintro ⟨u, here, reach⟩
      cases here
      exact reach
  | cons k ks ih =>
    constructor
    · intro reach
      cases reach with
      | into member rest =>
        obtain ⟨u, first, second⟩ := ih.mp rest
        exact ⟨u, .into member first, second⟩
    · rintro ⟨u, first, second⟩
      cases first with
      | into member rest => exact .into member (ih.mpr ⟨u, rest, second⟩)

/-- Every mapping of a structure, down through the mappings it holds, has text keys, no two
alike. -/
inductive TextKeyed : Value → Prop
  | map {es : List (Value × Value)} {locs : Option (List (Value × String × String))} :
      (∀ e ∈ es, ∃ s, e.1 = .str s) → (es.map Prod.fst).Nodup → (∀ e ∈ es, TextKeyed e.2) →
      TextKeyed (.map es locs)
  | other {v : Value} : (∀ es locs, v ≠ .map es locs) → TextKeyed v

theorem equal_texts_iff {a b : Value} (textA : ∃ s, a = .str s) :
    Value.equal a b = true ↔ b = a := by
  obtain ⟨s, rfl⟩ := textA
  rw [Value.text_equal_iff, eq_comm]

theorem lookupEntry_of_mem {es : List (Value × Value)} (texts : ∀ e ∈ es, ∃ s, e.1 = .str s)
    (distinct : (es.map Prod.fst).Nodup) {k v : Value} (member : (k, v) ∈ es) :
    lookupEntry k es = some v := by
  induction es with
  | nil => cases member
  | cons e rest ih =>
    obtain ⟨k2, v2⟩ := e
    obtain ⟨s, rfl⟩ := texts (k, v) member
    rw [List.map_cons, List.nodup_cons] at distinct
    rcases List.mem_cons.mp member with same | later
    · cases same
      simp [lookupEntry, Value.equal]
    · have other : k2 ≠ .str s := by
        rintro rfl
        exact distinct.1 (List.mem_map.mpr ⟨_, later, rfl⟩)
      have unequal : Value.equal (.str s) k2 = false := by
        cases h : Value.equal (.str s) k2
        · rfl
        · exact absurd ((Value.text_equal_iff s k2).mp h).symm other
      rw [lookupEntry, unequal, if_neg Bool.false_ne_true]
      exact ih (fun e m => texts e (List.mem_cons_of_mem _ m)) distinct.2 later

theorem TextKeyed.of_mem {es : List (Value × Value)} {locs} {k v : Value}
    (keyed : TextKeyed (.map es locs)) (member : (k, v) ∈ es) : TextKeyed v := by
  cases keyed with
  | map _ _ each => exact each (k, v) member
  | other notMap => exact absurd rfl (notMap es locs)

theorem TextKeyed.lookup {es : List (Value × Value)} {locs} {k v : Value}
    (keyed : TextKeyed (.map es locs)) (member : (k, v) ∈ es) : lookupEntry k es = some v := by
  cases keyed with
  | map texts distinct _ => exact lookupEntry_of_mem texts distinct member
  | other notMap => exact absurd rfl (notMap es locs)

theorem TextKeyed.reaches {v w : Value} {ks : List Value} (keyed : TextKeyed v)
    (reach : Reaches v ks w) : TextKeyed w := by
  induction reach with
  | here => exact keyed
  | into member _ ih => exact ih (keyed.of_mem member)

theorem TextKeyed.texts {v w : Value} {ks : List Value} (keyed : TextKeyed v)
    (reach : Reaches v ks w) : ∀ k ∈ ks, ∃ s, k = .str s := by
  induction reach with
  | here => intro k member; cases member
  | @into es locs k v w ks member _ ih =>
    intro k' member'
    rcases List.mem_cons.mp member' with rfl | later
    · cases keyed with
      | map texts _ _ => exact texts _ member
      | other notMap => exact absurd rfl (notMap es locs)
    · exact ih (keyed.of_mem member) k' later


section Removal

variable {key : Value}

theorem equal_self_of_text {k : Value} (text : ∃ s, k = .str s) : Value.equal k k = true :=
  (equal_texts_iff text).mpr rfl

theorem removeAt_other {w : List Value} {t : Value} (notMap : ∀ es locs, t ≠ .map es locs) :
    removeAt w key t = t :=
  removeAt.eq_3 _ _ _ (fun es locs _ same => notMap es locs same)
    (fun _ _ es locs _ same => notMap es locs same)

theorem removeAt_keyed (w : List Value) {t : Value} (keyed : TextKeyed t) :
    TextKeyed (removeAt w key t) := by
  induction w generalizing t with
  | nil =>
    cases keyed with
    | map texts distinct each =>
      rw [removeAt.eq_1]
      refine .map (fun e member => texts e (List.mem_filter.mp member).1) ?_
        (fun e member => each e (List.mem_filter.mp member).1)
      exact distinct.sublist (List.filter_sublist.map _)
    | other notMap =>
      rw [removeAt_other notMap]
      exact .other notMap
  | cons s rest ih =>
    cases keyed with
    | @map es locs texts distinct each =>
      rw [removeAt.eq_2]
      -- the step keeps every key and changes only values
      refine .map ?_ ?_ ?_
      · intro e member
        obtain ⟨⟨k, v⟩, inEs, rfl⟩ := List.mem_map.mp member
        obtain ⟨text, same⟩ := texts (k, v) inEs
        refine ⟨text, ?_⟩
        dsimp only at same ⊢
        split <;> exact same
      · rw [List.map_map]
        convert distinct using 1
        refine List.map_congr_left fun e _ => ?_
        obtain ⟨k, v⟩ := e
        dsimp only [Function.comp_apply]
        split <;> rfl
      · intro e member
        obtain ⟨⟨k, v⟩, inEs, rfl⟩ := List.mem_map.mp member
        dsimp only
        split
        · exact ih (each _ inEs)
        · exact each _ inEs
    | other notMap =>
      rw [removeAt_other notMap]
      exact .other notMap

theorem holdsMap_of_removeAt (ks : List Value) :
    ∀ (w : List Value) (t : Value), HoldsMap (removeAt w key t) ks → HoldsMap t ks := by
  induction ks with
  | nil =>
    intro w t holds
    by_cases isMap : ∃ es locs, t = .map es locs
    · exact holdsMap_nil.mpr isMap
    · rwa [removeAt_other fun es locs same => isMap ⟨es, locs, same⟩] at holds
  | cons k ks ih =>
    intro w t holds
    by_cases isMap : ∃ es locs, t = .map es locs
    · obtain ⟨es, locs, rfl⟩ := isMap
      cases w with
      | nil =>
        rw [removeAt.eq_1] at holds
        obtain ⟨es', locs', same, v, member, below⟩ := holdsMap_cons.mp holds
        cases same
        exact holdsMap_cons.mpr ⟨es, locs, rfl, v, (List.mem_filter.mp member).1, below⟩
      | cons s rest =>
        rw [removeAt.eq_2] at holds
        obtain ⟨es', locs', same, v', member, below⟩ := holdsMap_cons.mp holds
        cases same
        obtain ⟨⟨k0, v0⟩, inEs, changed⟩ := List.mem_map.mp member
        dsimp only at changed
        split at changed
        · rw [← (Prod.mk.inj changed).2] at below
          exact holdsMap_cons.mpr ⟨es, locs, rfl, v0, (Prod.mk.inj changed).1 ▸ inEs, ih rest v0 below⟩
        · rw [← (Prod.mk.inj changed).2] at below
          exact holdsMap_cons.mpr ⟨es, locs, rfl, v0, (Prod.mk.inj changed).1 ▸ inEs, below⟩
    · rwa [removeAt_other fun es locs same => isMap ⟨es, locs, same⟩] at holds

theorem not_holdsMap_removeAt (w : List Value) (texts : ∀ k ∈ w ++ [key], ∃ s, k = .str s) :
    ∀ t, ¬ HoldsMap (removeAt w key t) (w ++ [key]) := by
  induction w with
  | nil =>
    intro t holds
    obtain ⟨es', locs', same, v, member, -⟩ := holdsMap_cons.mp holds
    by_cases isMap : ∃ es locs, t = .map es locs
    · obtain ⟨es, locs, rfl⟩ := isMap
      rw [removeAt.eq_1] at same
      cases same
      have kept := (List.mem_filter.mp member).2
      dsimp only at kept
      rw [equal_self_of_text (texts key (by simp))] at kept
      cases kept
    · rw [removeAt_other fun es locs same => isMap ⟨es, locs, same⟩] at same
      exact isMap ⟨es', locs', same⟩
  | cons s rest ih =>
    intro t holds
    obtain ⟨es', locs', same, v', member, below⟩ := holdsMap_cons.mp holds
    by_cases isMap : ∃ es locs, t = .map es locs
    · obtain ⟨es, locs, rfl⟩ := isMap
      rw [removeAt.eq_2] at same
      cases same
      obtain ⟨⟨k0, v0⟩, -, changed⟩ := List.mem_map.mp member
      dsimp only at changed
      split at changed
      · rw [← (Prod.mk.inj changed).2] at below
        exact ih (fun k member => texts k (List.mem_cons_of_mem s member)) v0 below
      · rename_i unequal
        rw [(Prod.mk.inj changed).1] at unequal
        exact unequal (equal_self_of_text (texts s List.mem_cons_self))
    · rw [removeAt_other fun es locs same => isMap ⟨es, locs, same⟩] at same
      exact isMap ⟨es', locs', same⟩

end Removal


section Popping

theorem foldl_walkStep {v w : Value} {ks : List Value} (keyed : TextKeyed v)
    (reach : Reaches v ks w) (acc : List Value) : ks.foldl walkStep (v, acc) = (w, acc ++ ks) := by
  induction reach generalizing acc with
  | here => simp
  | @into es locs k v' w ks member _ ih =>
    have step : walkStep (.map es locs, acc) k = (v', acc ++ [k]) := by
      simp only [walkStep, keyed.lookup member]
    rw [List.foldl_cons, step, ih (keyed.of_mem member) (acc ++ [k]), List.append_assoc,
      List.singleton_append]

theorem popPath_cases {t t' : Value} {p : List Value} (popped : popPath t p = .ok t') :
    t' = t ∨ ∃ walked last, t' = removeAt walked last t := by
  unfold popPath at popped
  cases last : p.getLast? with
  | none =>
    rw [last] at popped
    cases popped
  | some k =>
    rw [last] at popped
    dsimp only at popped
    split at popped
    · split at popped
      · cases popped
        exact .inr ⟨_, k, rfl⟩
      · cases popped
        exact .inl rfl
    · cases popped

theorem popPath_exact {t : Value} {init : List Value} {last : Value} (keyed : TextKeyed t)
    (holds : HoldsMap t (init ++ [last])) : popPath t (init ++ [last]) = .ok (removeAt init last t) := by
  obtain ⟨es', locs', reach⟩ := holds
  obtain ⟨u, toU, lastStep⟩ := reaches_append.mp reach
  cases lastStep with
  | @into es locs _ v _ _ member _ =>
    have walked := foldl_walkStep keyed toU []
    rw [List.nil_append] at walked
    unfold popPath
    rw [List.getLast?_concat, List.dropLast_concat]
    dsimp only
    rw [walked]
    dsimp only
    rw [(keyed.reaches toU).lookup member]
    rfl

theorem popPath_step {t t' : Value} {p : List Value} (keyed : TextKeyed t)
    (popped : popPath t p = .ok t') :
    TextKeyed t' ∧ (∀ ks, HoldsMap t' ks → HoldsMap t ks) ∧ ¬ HoldsMap t' p := by
  have shrinks : TextKeyed t' ∧ ∀ ks, HoldsMap t' ks → HoldsMap t ks := by
    rcases popPath_cases popped with rfl | ⟨walked, last, rfl⟩
    · exact ⟨keyed, fun _ holds => holds⟩
    · exact ⟨removeAt_keyed walked keyed, fun ks => holdsMap_of_removeAt ks walked t⟩
  refine ⟨shrinks.1, shrinks.2, fun holds => ?_⟩
  -- the path was there before the removal, so the walk followed it and removed it
  have before := shrinks.2 p holds
  rcases p.eq_nil_or_concat with rfl | ⟨init, last, rfl⟩
  · unfold popPath at popped
    cases popped
  · rw [List.concat_eq_append] at popped holds before
    rw [popPath_exact keyed before] at popped
    cases popped
    obtain ⟨_, _, reach⟩ := before
    exact not_holdsMap_removeAt init (keyed.texts reach) t holds

end Popping


section Grouping

theorem lookupGroup_some {k : Value} {groups : List (Value × List (List Value))}
    {ps : List (List Value)} (found : lookupGroup k groups = some ps) :
    ∃ g ∈ groups, Value.equal k g.1 = true := by
  induction groups with
  | nil => cases found
  | cons g rest ih =>
    obtain ⟨k2, ps2⟩ := g
    unfold lookupGroup at found
    split at found
    · exact ⟨(k2, ps2), List.mem_cons_self, by assumption⟩
    · obtain ⟨g, member, equal⟩ := ih found
      exact ⟨g, List.mem_cons_of_mem _ member, equal⟩

theorem lookupGroup_none {k : Value} {groups : List (Value × List (List Value))}
    (missing : lookupGroup k groups = none) : ∀ g ∈ groups, Value.equal k g.1 = false := by
  induction groups with
  | nil => intro g member; cases member
  | cons g rest ih =>
    obtain ⟨k2, ps2⟩ := g
    unfold lookupGroup at missing
    split at missing
    · cases missing
    · rename_i unequal
      intro g member
      rcases List.mem_cons.mp member with rfl | later
      · simpa using unequal
      · exact ih missing g later

/-- Groups gathered from entries with text keys: each key met has a group, and every group of
a key holds every path met with that key. -/
def Gathered (groups : List (Value × List (List Value))) (done : List (Value × List Value)) :
    Prop :=
  (∀ e ∈ done, ∃ g ∈ groups, g.1 = e.1) ∧ (∀ e ∈ done, ∀ g ∈ groups, g.1 = e.1 → e.2 ∈ g.2) ∧
    ∀ g ∈ groups, ∃ s, g.1 = .str s

theorem Gathered.add {groups : List (Value × List (List Value))} {done : List (Value × List Value)}
    (gathered : Gathered groups done) {e : Value × List Value} (text : ∃ s, e.1 = .str s) :
    Gathered (addToGroup groups e) (done ++ [e]) := by
  obtain ⟨hasGroup, holdsPaths, texts⟩ := gathered
  unfold addToGroup
  cases found : lookupGroup e.1 groups with
  | some ps =>
    -- the groups of the key take the path; no group changes its key
    obtain ⟨g0, inGroups, equal0⟩ := lookupGroup_some found
    refine ⟨fun e' member => ?_, fun e' member g' inG' key' => ?_, fun g' inG' => ?_⟩
    · obtain ⟨g, inG, key⟩ : ∃ g ∈ groups, g.1 = e'.1 := by
        rcases List.mem_append.mp member with old | new
        · exact hasGroup e' old
        · rw [List.mem_singleton.mp new]
          exact ⟨g0, inGroups, (equal_texts_iff text).mp equal0⟩
      refine ⟨_, List.mem_map_of_mem inG, ?_⟩
      split <;> exact key
    · obtain ⟨g, inG, rfl⟩ := List.mem_map.mp inG'
      by_cases equal : Value.equal e.1 g.1 = true
      · rw [if_pos equal] at key' ⊢
        rcases List.mem_append.mp member with old | new
        · exact List.mem_append_left _ (holdsPaths e' old g inG key')
        · rw [List.mem_singleton.mp new]
          exact List.mem_append_right _ (List.mem_singleton_self _)
      · rw [if_neg equal] at key' ⊢
        rcases List.mem_append.mp member with old | new
        · exact holdsPaths e' old g inG key'
        · rw [List.mem_singleton.mp new] at key'
          exact absurd ((equal_texts_iff text).mpr key') equal
    · obtain ⟨g, inG, rfl⟩ := List.mem_map.mp inG'
      split
      · exact texts g inG
      · exact texts g inG
  | none =>
    -- no group has the key yet, so the key starts one of its own
    have apart := lookupGroup_none found
    refine ⟨fun e' member => ?_, fun e' member g' inG' key' => ?_, fun g' inG' => ?_⟩
    · rcases List.mem_append.mp member with old | new
      · obtain ⟨g, inG, key⟩ := hasGroup e' old
        exact ⟨g, List.mem_append_left _ inG, key⟩
      · rw [List.mem_singleton.mp new]
        exact ⟨_, List.mem_append_right _ (List.mem_singleton_self _), rfl⟩
    · rcases List.mem_append.mp inG' with oldGroup | newGroup
      · rcases List.mem_append.mp member with old | new
        · exact holdsPaths e' old g' oldGroup key'
        · rw [List.mem_singleton.mp new] at key'
          have equal := (equal_texts_iff text).mpr key'
          rw [apart g' oldGroup] at equal
          cases equal
      · rw [List.mem_singleton.mp newGroup] at key' ⊢
        rcases List.mem_append.mp member with old | new
        · obtain ⟨g, inG, key⟩ := hasGroup e' old
          have equal := (equal_texts_iff text).mpr (key.trans key'.symm)
          rw [apart g inG] at equal
          cases equal
        · rw [List.mem_singleton.mp new]
          exact List.mem_singleton_self _
    · rcases List.mem_append.mp inG' with oldGroup | newGroup
      · exact texts g' oldGroup
      · rw [List.mem_singleton.mp newGroup]
        exact text

theorem gathered_foldl (xs : List (Value × List Value)) (texts : ∀ e ∈ xs, ∃ s, e.1 = .str s) :
    ∀ (groups : List (Value × List (List Value))) (done : List (Value × List Value)),
      Gathered groups done → Gathered (xs.foldl addToGroup groups) (done ++ xs) := by
  induction xs with
  | nil =>
    intro groups done gathered
    rwa [List.append_nil]
  | cons e rest ih =>
    intro groups done gathered
    rw [List.foldl_cons, ← List.singleton_append, ← List.append_assoc]
    exact ih (fun e member => texts e (List.mem_cons_of_mem _ member)) _ _
      (gathered.add (texts e List.mem_cons_self))

theorem foldl_min_le (ps : List (List Value)) (m : Nat) :
    ps.foldl (fun m p => min m p.length) m ≤ m ∧
      ∀ q ∈ ps, ps.foldl (fun m p => min m p.length) m ≤ q.length := by
  induction ps generalizing m with
  | nil => simp
  | cons p rest ih =>
    obtain ⟨atMost, each⟩ := ih (min m p.length)
    refine ⟨by rw [List.foldl_cons]; omega, fun q member => ?_⟩
    rw [List.foldl_cons]
    rcases List.mem_cons.mp member with rfl | later
    · omega
    · exact each q later

theorem shortestLength_le {ps : List (List Value)} {q : List Value} (member : q ∈ ps) :
    shortestLength ps ≤ q.length :=
  (foldl_min_le ps 9999).2 q member

theorem shortest_of_not_deeper {paths : List (Value × List Value)}
    (texts : ∀ e ∈ paths, ∃ s, e.1 = .str s) {k : Value} {p q : List Value}
    (hp : (k, p) ∈ paths) (hq : (k, q) ∈ paths) (kept : p ∉ deeperPaths paths) :
    p.length ≤ q.length := by
  have start : Gathered [] [] := by simp [Gathered]
  obtain ⟨hasGroup, holdsPaths, -⟩ := gathered_foldl paths texts [] [] start
  rw [List.nil_append] at hasGroup holdsPaths
  -- both paths are in the one group of their key
  obtain ⟨g, inG, key⟩ := hasGroup (k, p) hp
  have pIn := holdsPaths (k, p) hp g inG key
  have qIn := holdsPaths (k, q) hq g inG key
  have shortest : p.length = shortestLength g.2 := by
    by_contra differs
    apply kept
    unfold deeperPaths
    exact List.mem_flatMap.mpr ⟨g, inG, List.mem_filter.mpr ⟨pIn, by simpa using differs⟩⟩
  rw [shortest]
  exact shortestLength_le qIn

end Grouping


section Pruning

open Std.Do

set_option mvcgen.warning false

theorem keyPaths_texts {S : Value} (keyed : TextKeyed S) : ∀ e ∈ keyPaths [] S, ∃ s, e.1 = .str s := by
  rintro ⟨k, q⟩ member
  obtain ⟨last, _, _, reach⟩ := mem_paths.mp member
  exact keyed.texts reach k (List.mem_of_getLast? last)

/-- Pruning keeps the keys texts, takes paths only away, and leaves nothing at a path it
removes, whatever the earlier removals did. -/
theorem prune_spec (S : Value) (keyed : TextKeyed S) :
    ⦃⌜True⌝⦄ prune S ⦃post⟨fun P => ⌜TextKeyed P ∧ (∀ ks, HoldsMap P ks → HoldsMap S ks) ∧
      ∀ r ∈ deeperPaths (keyPaths [] S), ¬ HoldsMap P r⌝, fun _ => ⌜True⌝⟩⦄ := by
  have hPop := fun t p => Value.triple_ok_eq (popPath t p)
  unfold prune
  mvcgen [hPop] invariants
  | inv1 => post⟨fun ⟨cur, P⟩ => ⌜TextKeyed P ∧ (∀ ks, HoldsMap P ks → HoldsMap S ks) ∧
      ∀ r ∈ cur.prefix, ¬ HoldsMap P r⌝, fun _ => ⌜True⌝⟩
  case vc1.step.success pref cur suff _ P inv P' popped =>
    -- one removal keeps the invariant: what was gone stays gone, and its own path goes
    obtain ⟨keyedP, within, gone⟩ := inv
    obtain ⟨keyed', shrinks, removed⟩ := popPath_step keyedP popped
    refine ⟨keyed', fun ks holds => within ks (shrinks ks holds), fun r member holds => ?_⟩
    rcases List.mem_append.mp member with earlier | now
    · exact gone r earlier (shrinks r holds)
    · rw [List.mem_singleton.mp now] at holds
      exact removed holds
  case vc3.pre => exact ⟨keyed, fun _ holds => holds, fun _ member => by cases member⟩

theorem prune_keyed {S P : Value} (keyed : TextKeyed S) (pruned : prune S = .ok P) : TextKeyed P :=
  (Value.ok_of_triple (prune_spec S keyed) pruned).1

/-- Every path that pruning keeps was a path of the structure, and no path of its key there is
shorter. -/
theorem prune_keeps_shallowest {S P : Value} (keyed : TextKeyed S) (pruned : prune S = .ok P)
    {k : Value} {p : List Value} (kept : (k, p) ∈ keyPaths [] P) :
    (k, p) ∈ keyPaths [] S ∧ ∀ q, (k, q) ∈ keyPaths [] S → p.length ≤ q.length := by
  obtain ⟨_, within, removed⟩ := Value.ok_of_triple (prune_spec S keyed) pruned
  obtain ⟨last, holds⟩ := mem_paths.mp kept
  have before : (k, p) ∈ keyPaths [] S := mem_paths.mpr ⟨last, within p holds⟩
  refine ⟨before, fun q other => shortest_of_not_deeper (keyPaths_texts keyed) before other ?_⟩
  exact fun deeper => removed p deeper holds

end Pruning

end Dashwright.Reference
