import Mathlib
import Dashwright.Proofs.Query.Walk

/-! The select items of a trace.

Tokenizing walks a trace depth first, through every non-null mapping value and every list item,
and reads each leaf it meets. A leaf under `props` gives the argument of its `query(...)` call,
and a leaf under `columns` its text; a statement that is empty is dropped. The statement is
named by the leaf's path, its steps written out and joined by dots, and the items are gathered
as a mapping gathers them: a name met again keeps its place and takes the later statement.

So the select items are the items of the leaves, in walk order, merged by name. Two leaves get
one name when their paths are written alike, as `a.b` and `a` then `b` are; then the earlier
statement is lost. When no mapping writes a key with a dot in it, and no mapping writes two of
its keys alike, distinct leaves have distinct names, and every leaf keeps its own item. -/

namespace Dashwright.Query

/-- Items gathered one after another into a mapping from names to statements. -/
def mergeItems (acc items : List (String × String)) : List (String × String) :=
  items.foldl (fun acc item => addItem acc item.1 item.2) acc

theorem mergeItems_nil (acc : List (String × String)) : mergeItems acc [] = acc := rfl

theorem mergeItems_cons (acc : List (String × String)) (item : String × String) (rest : List (String × String)) :
    mergeItems acc (item :: rest) = mergeItems (addItem acc item.1 item.2) rest := rfl

theorem mergeItems_append (acc xs ys : List (String × String)) :
    mergeItems acc (xs ++ ys) = mergeItems (mergeItems acc xs) ys := by
  simp [mergeItems, List.foldl_append]

theorem any_name_iff (acc : List (String × String)) (n : String) :
    acc.any (·.1 == n) = true ↔ n ∈ acc.map Prod.fst := by
  simp

theorem mem_addItem (acc : List (String × String)) (n s m t : String) :
    (m, t) ∈ addItem acc n s ↔ ((m, t) ∈ acc ∧ m ≠ n) ∨ (m = n ∧ t = s) := by
  unfold addItem
  by_cases held : acc.any (·.1 == n) = true
  · obtain ⟨⟨n', s'⟩, member, named⟩ := List.any_eq_true.mp held
    have same : n' = n := by simpa using named
    subst same
    rw [if_pos held, List.mem_map]
    constructor
    · rintro ⟨⟨k, v⟩, inAcc, replaced⟩
      by_cases hit : k = n'
      · subst hit
        simp only [beq_self_eq_true, if_true, Prod.mk.injEq] at replaced
        exact .inr ⟨replaced.1.symm, replaced.2.symm⟩
      · simp only [beq_iff_eq, hit, if_false, Prod.mk.injEq] at replaced
        obtain ⟨rfl, rfl⟩ := replaced
        exact .inl ⟨inAcc, hit⟩
    · rintro (⟨inAcc, other⟩ | ⟨rfl, rfl⟩)
      · exact ⟨(m, t), inAcc, by simp [other]⟩
      · exact ⟨(m, s'), member, by simp⟩
  · have fresh : ∀ e ∈ acc, e.1 ≠ n := fun e member same => held (List.any_eq_true.mpr ⟨e, member, by simp [same]⟩)
    rw [if_neg held, List.mem_append, List.mem_singleton, Prod.mk.injEq]
    constructor
    · rintro (inAcc | same)
      · exact .inl ⟨inAcc, fresh _ inAcc⟩
      · exact .inr same
    · rintro (⟨inAcc, _⟩ | same)
      · exact .inl inAcc
      · exact .inr same

theorem names_addItem (acc : List (String × String)) (n s : String) :
    (addItem acc n s).map Prod.fst = if n ∈ acc.map Prod.fst then acc.map Prod.fst else acc.map Prod.fst ++ [n] := by
  unfold addItem
  by_cases held : acc.any (·.1 == n) = true
  · rw [if_pos held, if_pos ((any_name_iff acc n).mp held), List.map_map]
    congr 1
    funext e
    by_cases hit : e.1 = n <;> simp [hit]
  · rw [if_neg held, if_neg (mt (any_name_iff acc n).mpr held), List.map_append]
    rfl

theorem nodup_addItem {acc : List (String × String)} (distinct : (acc.map Prod.fst).Nodup) (n s : String) :
    ((addItem acc n s).map Prod.fst).Nodup := by
  rw [names_addItem]
  split
  · exact distinct
  · rename_i absent
    exact distinct.append (List.nodup_singleton n) (List.disjoint_singleton.mpr absent)

theorem nodup_mergeItems {acc : List (String × String)} (distinct : (acc.map Prod.fst).Nodup)
    (items : List (String × String)) : ((mergeItems acc items).map Prod.fst).Nodup := by
  induction items generalizing acc with
  | nil => exact distinct
  | cons item rest ih => exact ih (nodup_addItem distinct item.1 item.2)

theorem nothing_gathered : (([] : List (String × String)).map Prod.fst).Nodup := List.nodup_nil

theorem exists_split_cons {x y : String × String} {rest : List (String × String)} {m : String} :
    (∃ pre post, x :: rest = pre ++ y :: post ∧ m ∉ post.map Prod.fst) ↔
      (x = y ∧ m ∉ rest.map Prod.fst) ∨ ∃ pre post, rest = pre ++ y :: post ∧ m ∉ post.map Prod.fst := by
  constructor
  · rintro ⟨pre, post, split, fresh⟩
    cases pre with
    | nil =>
      obtain ⟨rfl, rfl⟩ := List.cons_eq_cons.mp split
      exact .inl ⟨rfl, fresh⟩
    | cons p pre =>
      obtain ⟨-, rfl⟩ := List.cons_eq_cons.mp split
      exact .inr ⟨pre, post, rfl, fresh⟩
  · rintro (⟨rfl, fresh⟩ | ⟨pre, post, rfl, fresh⟩)
    · exact ⟨[], rest, rfl, fresh⟩
    · exact ⟨x :: pre, post, rfl, fresh⟩

theorem mem_mergeItems {acc : List (String × String)} (distinct : (acc.map Prod.fst).Nodup)
    (items : List (String × String)) (m t : String) :
    (m, t) ∈ mergeItems acc items ↔
      ((m, t) ∈ acc ∧ m ∉ items.map Prod.fst) ∨
        ∃ pre post, items = pre ++ (m, t) :: post ∧ m ∉ post.map Prod.fst := by
  induction items generalizing acc with
  | nil => simp [mergeItems_nil]
  | cons item rest ih =>
    obtain ⟨n, s⟩ := item
    rw [mergeItems_cons, ih (nodup_addItem distinct n s), mem_addItem, exists_split_cons]
    simp only [List.map_cons, List.mem_cons, not_or, Prod.mk.injEq]
    constructor
    · rintro (⟨⟨inAcc, other⟩ | ⟨rfl, rfl⟩, later⟩ | split)
      · exact .inl ⟨inAcc, other, later⟩
      · exact .inr (.inl ⟨⟨rfl, rfl⟩, later⟩)
      · exact .inr (.inr split)
    · rintro (⟨inAcc, other, later⟩ | ⟨⟨rfl, rfl⟩, later⟩ | split)
      · exact .inl ⟨.inl ⟨inAcc, other⟩, later⟩
      · exact .inl ⟨.inr ⟨rfl, rfl⟩, later⟩
      · exact .inr split

theorem mergeItems_of_nodup {acc items : List (String × String)}
    (distinct : (acc.map Prod.fst ++ items.map Prod.fst).Nodup) : mergeItems acc items = acc ++ items := by
  induction items generalizing acc with
  | nil => simp [mergeItems_nil]
  | cons item rest ih =>
    have fresh : item.1 ∉ acc.map Prod.fst := by
      intro held
      exact (List.nodup_append.mp distinct).2.2 _ held _ List.mem_cons_self rfl
    have appended : addItem acc item.1 item.2 = acc ++ [item] := by
      unfold addItem
      rw [if_neg (mt (any_name_iff acc item.1).mp fresh)]
    rw [mergeItems_cons, appended, ih (by simpa using distinct), List.append_assoc, List.singleton_append]

/-- The dotted name of a path: its steps written out and joined by dots. -/
def pathName (path : List Step) : String := ".".intercalate (path.map Step.text)

mutual
/-- The leaves of a value below a path, each with its path, in the order a depth-first walk
meets them: through every mapping value that is not null and every list item. -/
def leavesOf (path : List Step) : Value → List (List Step × Value)
  | .map es _ => entryLeaves path es
  | .list xs => itemLeaves path 0 xs
  | leaf => [(path, leaf)]

def entryLeaves (path : List Step) : List (Value × Value) → List (List Step × Value)
  | [] => []
  | (_, .none) :: rest => entryLeaves path rest
  | (k, v) :: rest => leavesOf (path ++ [.key k]) v ++ entryLeaves path rest

def itemLeaves (path : List Step) (i : Nat) : List Value → List (List Step × Value)
  | [] => []
  | x :: rest => leavesOf (path ++ [.index i]) x ++ itemLeaves path (i + 1) rest
end

/-- The select item a leaf gives: its statement, when it has one that is not empty, under its
dotted path. -/
def leafItem (leaf : List Step × Value) : Option (String × String) :=
  ((leafStatement leaf.1 leaf.2).filter (!·.isEmpty)).map (pathName leaf.1, ·)

/-- The select items the leaves of a value give, one for each leaf that gives one, in walk
order. -/
def leafItems (v : Value) : List (String × String) := (leavesOf [] v).filterMap leafItem

theorem leavesOf_leaf (path : List Step) (v : Value) (notMap : ∀ es locs, v ≠ .map es locs)
    (notList : ∀ xs, v ≠ .list xs) : leavesOf path v = [(path, v)] := by
  rw [leavesOf.eq_def]
  split
  · exact absurd rfl (notMap _ _)
  · exact absurd rfl (notList _)
  · rfl

theorem leafStatement_root {path : List Step} {leaf : Value} {stmt : String}
    (found : leafStatement path leaf = some stmt) :
    ∃ root rest, path = .key (.str root) :: rest ∧ (root = "props" ∨ root = "columns") := by
  unfold leafStatement at found
  split at found
  · rename_i first
    obtain ⟨rest, rfl⟩ := List.head?_eq_some_iff.mp first
    exact ⟨"props", rest, rfl, .inl rfl⟩
  · rename_i first
    obtain ⟨rest, rfl⟩ := List.head?_eq_some_iff.mp first
    exact ⟨"columns", rest, rfl, .inr rfl⟩
  · cases found

theorem pathName_prefix (first : Step) (rest : List Step) :
    first.text.toList <+: (pathName (first :: rest)).toList := by
  unfold pathName
  cases rest with
  | nil => simp
  | cons second rest =>
    rw [List.map_cons, List.map_cons, String.intercalate_cons_cons, String.toList_append, String.toList_append]
    exact List.prefix_append _ _ |>.trans (List.prefix_append _ _)

theorem leafStatement_name {path : List Step} {leaf : Value} {stmt : String}
    (found : leafStatement path leaf = some stmt) :
    (pathName path == "cohort_on" || (pathName path == "filter" || pathName path == "order_by")) = false := by
  obtain ⟨root, rest, rfl, rooted⟩ := leafStatement_root found
  -- the name starts with `props` or `columns`, and none of the names set aside does
  have starts := pathName_prefix (.key (.str root)) rest
  have unlike : ∀ n, n = "cohort_on" ∨ n = "filter" ∨ n = "order_by" → ¬ root.toList <+: n.toList := by
    rintro n (rfl | rfl | rfl) <;> rcases rooted with rfl | rfl <;> decide
  simp only [Bool.or_eq_false_iff, beq_eq_false_iff_ne, ne_eq]
  refine ⟨fun same => ?_, fun same => ?_, fun same => ?_⟩ <;> rw [same] at starts
  · exact unlike _ (.inl rfl) starts
  · exact unlike _ (.inr (.inl rfl)) starts
  · exact unlike _ (.inr (.inr rfl)) starts

section Again

variable (again : List Step → List (String × String) → Outcome (List (String × String)))

theorem collectItems_leaf_eq (path : List Step) (acc : List (String × String)) (v : Value)
    (notMap : ∀ es locs, v ≠ .map es locs) (notList : ∀ xs, v ≠ .list xs) :
    collectItems again path acc v = .ok (mergeItems acc ((leavesOf path v).filterMap leafItem)) := by
  rw [leavesOf_leaf path v notMap notList, collectItems.eq_def]
  split
  · exact absurd rfl (notMap _ _)
  · exact absurd rfl (notList _)
  · simp only [List.filterMap_cons, List.filterMap_nil, leafItem]
    cases found : leafStatement path v with
    | none => rfl
    | some stmt =>
      simp only [show ".".intercalate (path.map Step.text) = pathName path from rfl, Bool.or_assoc,
        leafStatement_name found, Bool.or_false]
      cases empty : stmt.isEmpty <;> simp [Option.filter, empty, mergeItems_cons, mergeItems_nil] <;> rfl

mutual

theorem collectItems_merges (path : List Step) (acc : List (String × String)) :
    ∀ v : Value, ¬ NullItem v →
      collectItems again path acc v = .ok (mergeItems acc ((leavesOf path v).filterMap leafItem))
  | .map es locs, noNull => by
    rw [collectItems.eq_1, leavesOf.eq_1]
    refine collectEntries_merges path acc es ?_
    rintro ⟨_, _, member, below⟩
    exact noNull (.entry member below)
  | .list xs, noNull => by
    rw [collectItems.eq_2, leavesOf.eq_2]
    exact collectList_merges path 0 acc xs fun holds => noNull (nullItem_list_iff.mpr holds)
  | .none, _ | .bool _, _ | .int _, _ | .float _, _ | .str _, _ | .bytes _, _ | .date _, _ | .moment _, _
  | .tuple _, _ | .set _, _ | .cycle _, _ | .range _ _ _, _ | .complex _ _, _ | .classObject _, _ =>
    collectItems_leaf_eq again path acc _ (fun _ _ same => by cases same) (fun _ same => by cases same)

theorem collectEntries_merges (path : List Step) (acc : List (String × String)) :
    ∀ es : List (Value × Value), (¬ ∃ k v, (k, v) ∈ es ∧ NullItem v) →
      collectEntries again path acc es = .ok (mergeItems acc ((entryLeaves path es).filterMap leafItem))
  | [], _ => rfl
  | (k, v) :: rest, noNull => by
    have restClear : ¬ ∃ k v, (k, v) ∈ rest ∧ NullItem v := by
      rintro ⟨k', v', member, below⟩
      exact noNull ⟨k', v', List.mem_cons_of_mem _ member, below⟩
    by_cases skipped : v = .none
    · -- a null value is skipped
      subst skipped
      rw [collectEntries.eq_2, entryLeaves.eq_2]
      exact collectEntries_merges path acc rest restClear
    · have walked := collectItems_merges (path ++ [.key k]) acc v fun below =>
        noNull ⟨k, v, List.mem_cons_self, below⟩
      rw [collectEntries.eq_3 again path acc k v rest skipped, entryLeaves.eq_3 path k v rest skipped, walked,
        ok_bind, List.filterMap_append, mergeItems_append]
      exact collectEntries_merges path _ rest restClear

theorem collectList_merges (path : List Step) (i : Nat) (acc : List (String × String)) :
    ∀ xs : List Value, ¬ (Value.none ∈ xs ∨ ∃ x ∈ xs, NullItem x) →
      collectList again path i acc xs = .ok (mergeItems acc ((itemLeaves path i xs).filterMap leafItem))
  | [], _ => rfl
  | x :: rest, noNull => by
    have notNull : x ≠ .none := fun same => noNull (.inl (same ▸ List.mem_cons_self))
    have walked := collectItems_merges (path ++ [.index i]) acc x fun below =>
      noNull (.inr ⟨x, List.mem_cons_self, below⟩)
    rw [collectList.eq_3 again path i acc x rest notNull, itemLeaves.eq_2, walked, ok_bind, List.filterMap_append,
      mergeItems_append]
    exact collectList_merges path (i + 1) _ rest fun holds => noNull (nullItemIn_cons.mpr (.inr (.inr holds)))

end

end Again

/-- The select items of a trace with no null list item are the items of its leaves, in walk
order, gathered by name. -/
theorem selectItems_merges {trace : Value} (noNull : ¬ NullItem trace) :
    selectItems trace = .ok (mergeItems [] (leafItems trace)) :=
  collectItems_merges (walkFromRoot trace (restartLimit - 1)) [] [] trace noNull

theorem dot_split_inj : ∀ {t u x y : List Char}, '.' ∉ t → '.' ∉ u → t ++ '.' :: x = u ++ '.' :: y →
    t = u ∧ x = y
  | [], [], _, _, _, _, same => ⟨rfl, (List.cons_eq_cons.mp same).2⟩
  | [], c :: u, _, _, _, clear_u, same => by
    obtain ⟨rfl, -⟩ := List.cons_eq_cons.mp same
    exact absurd List.mem_cons_self clear_u
  | c :: t, [], _, _, clear_t, _, same => by
    obtain ⟨rfl, -⟩ := List.cons_eq_cons.mp same
    exact absurd List.mem_cons_self clear_t
  | c :: t, d :: u, _, _, clear_t, clear_u, same => by
    obtain ⟨rfl, rest⟩ := List.cons_eq_cons.mp same
    obtain ⟨rfl, rfl⟩ := dot_split_inj (fun inT => clear_t (List.mem_cons_of_mem c inT))
      (fun inU => clear_u (List.mem_cons_of_mem c inU)) rest
    exact ⟨rfl, rfl⟩

theorem intercalate_dot_inj : ∀ {ts us : List (List Char)}, ts ≠ [] → us ≠ [] →
    (∀ t ∈ ts, '.' ∉ t) → (∀ u ∈ us, '.' ∉ u) → ['.'].intercalate ts = ['.'].intercalate us → ts = us
  | [t], [u], _, _, _, _, same => by simpa using same
  | [t], u :: u' :: us, _, _, clear_ts, _, same => by
    rw [List.intercalate_singleton, List.intercalate_cons_cons] at same
    exact absurd (same ▸ by simp : '.' ∈ t) (clear_ts t List.mem_cons_self)
  | t :: t' :: ts, [u], _, _, _, clear_us, same => by
    rw [List.intercalate_singleton, List.intercalate_cons_cons] at same
    exact absurd (same ▸ by simp : '.' ∈ u) (clear_us u List.mem_cons_self)
  | t :: t' :: ts, u :: u' :: us, _, _, clear_ts, clear_us, same => by
    rw [List.intercalate_cons_cons, List.intercalate_cons_cons, List.append_assoc, List.append_assoc,
      List.singleton_append, List.singleton_append] at same
    obtain ⟨rfl, rest⟩ := dot_split_inj (clear_ts t List.mem_cons_self) (clear_us u List.mem_cons_self) same
    rw [intercalate_dot_inj (List.cons_ne_nil _ _) (List.cons_ne_nil _ _)
      (fun t member => clear_ts t (List.mem_cons_of_mem _ member))
      (fun u member => clear_us u (List.mem_cons_of_mem _ member)) rest]

def Step.Plain (st : Step) : Prop := '.' ∉ st.text.toList

instance stepPlain_decidable : DecidablePred Step.Plain := fun st => inferInstanceAs (Decidable ('.' ∉ st.text.toList))

theorem index_plain (i : Nat) : (Step.index i).Plain := by
  intro member
  have digit : Char.isDigit '.' = true :=
    Nat.isDigit_of_mem_toDigits (by decide) (by decide) (Nat.toList_repr ▸ member)
  exact absurd digit (by decide)

theorem index_text_inj {i j : Nat} (same : (Step.index i).text = (Step.index j).text) : i = j :=
  Nat.repr_inj.mp same

theorem pathName_inj {p q : List Step} (nonempty_p : p ≠ []) (nonempty_q : q ≠ [])
    (plain_p : ∀ st ∈ p, st.Plain) (plain_q : ∀ st ∈ q, st.Plain) (same : pathName p = pathName q) :
    p.map Step.text = q.map Step.text := by
  have chars := congrArg String.toList same
  rw [pathName, pathName, String.toList_intercalate, String.toList_intercalate, List.map_map, List.map_map] at chars
  have joined := intercalate_dot_inj (by simpa using nonempty_p) (by simpa using nonempty_q)
    (by simpa [Step.Plain] using plain_p) (by simpa [Step.Plain] using plain_q) chars
  have texts : (p.map Step.text).map String.toList = (q.map Step.text).map String.toList := by
    simpa only [List.map_map] using joined
  exact List.map_injective_iff.mpr (fun _ _ => String.toList_inj.mp) texts

/-- Every mapping along the walk of a value writes its keys without dots, and no two of them
alike. -/
inductive PlainKeys : Value → Prop
  | map {es : List (Value × Value)} {locs : Option (List (Value × String × String))} :
      (es.map fun e => e.1.text).Nodup → (∀ e ∈ es, (Step.key e.1).Plain) →
      (∀ e ∈ es, PlainKeys e.2) → PlainKeys (.map es locs)
  | list {xs : List Value} : (∀ x ∈ xs, PlainKeys x) → PlainKeys (.list xs)
  | leaf {v : Value} : (∀ es locs, v ≠ .map es locs) → (∀ xs, v ≠ .list xs) → PlainKeys v

/-- Leaves below a path: each path goes on from it by steps written without dots, and no two
paths are written alike. -/
def PathsBelow (path : List Step) (leaves : List (List Step × Value)) : Prop :=
  (∀ l ∈ leaves, ∃ rel, l.1 = path ++ rel ∧ ∀ st ∈ rel, st.Plain) ∧
    (leaves.map fun l => l.1.map Step.text).Nodup

/-- Leaves below a path through one of the first steps `firsts`: each path goes on from the
path by one of them and then by steps written without dots, and no two paths are written
alike. -/
def PathsThrough (path : List Step) (firsts : List Step) (leaves : List (List Step × Value)) : Prop :=
  (∀ l ∈ leaves, ∃ first ∈ firsts, ∃ rel, l.1 = path ++ first :: rel ∧ ∀ st ∈ rel, st.Plain) ∧
    (leaves.map fun l => l.1.map Step.text).Nodup

theorem PathsThrough.nil (path : List Step) (firsts : List Step) : PathsThrough path firsts [] :=
  ⟨fun _ member => (by cases member), List.nodup_nil⟩

theorem PathsThrough.mono {path : List Step} {firsts more : List Step} {leaves : List (List Step × Value)}
    (through : PathsThrough path firsts leaves) (sub : ∀ st ∈ firsts, st ∈ more) : PathsThrough path more leaves :=
  ⟨fun l member => by
    obtain ⟨first, inFirsts, rel, split, plain⟩ := through.1 l member
    exact ⟨first, sub first inFirsts, rel, split, plain⟩, through.2⟩

theorem PathsThrough.below {path : List Step} {firsts : List Step} {leaves : List (List Step × Value)}
    (through : PathsThrough path firsts leaves) (plain : ∀ st ∈ firsts, st.Plain) : PathsBelow path leaves :=
  ⟨fun l member => by
    obtain ⟨first, inFirsts, rel, split, plainRel⟩ := through.1 l member
    refine ⟨first :: rel, split, fun st inRel => ?_⟩
    rcases List.mem_cons.mp inRel with rfl | later
    · exact plain st inFirsts
    · exact plainRel st later, through.2⟩

theorem PathsThrough.cons {path : List Step} {first : Step} {firsts : List Step}
    {now later : List (List Step × Value)} (here : PathsBelow (path ++ [first]) now)
    (rest : PathsThrough path firsts later) (fresh : first.text ∉ firsts.map Step.text) :
    PathsThrough path (first :: firsts) (now ++ later) := by
  refine ⟨fun l member => ?_, ?_⟩
  · rcases List.mem_append.mp member with inNow | inLater
    · obtain ⟨rel, split, plain⟩ := here.1 l inNow
      exact ⟨first, List.mem_cons_self, rel, by rw [split, List.append_assoc, List.singleton_append], plain⟩
    · obtain ⟨other, inFirsts, rel, split, plain⟩ := rest.1 l inLater
      exact ⟨other, List.mem_cons_of_mem first inFirsts, rel, split, plain⟩
  · rw [List.map_append, List.nodup_append]
    refine ⟨here.2, rest.2, fun a inNow b inLater same => ?_⟩
    obtain ⟨l, member, rfl⟩ := List.mem_map.mp inNow
    obtain ⟨l', member', rfl⟩ := List.mem_map.mp inLater
    obtain ⟨rel, split, -⟩ := here.1 l member
    obtain ⟨other, inFirsts, rel', split', -⟩ := rest.1 l' member'
    -- the two paths part at the step after `path`
    rw [split, split', List.append_assoc, List.singleton_append, List.map_append, List.map_append,
      List.map_cons, List.map_cons] at same
    have steps := (List.cons_eq_cons.mp (List.append_cancel_left same)).1
    exact fresh (steps ▸ List.mem_map_of_mem inFirsts)

theorem PathsBelow.leaf (path : List Step) (v : Value) : PathsBelow path [(path, v)] :=
  ⟨fun l member => ⟨[], by rw [List.mem_singleton.mp member, List.append_nil],
    fun _ member => by cases member⟩, List.nodup_singleton _⟩

mutual

theorem leavesOf_paths (path : List Step) : ∀ v : Value, PlainKeys v → PathsBelow path (leavesOf path v)
  | .map es locs, plain => by
    rw [leavesOf.eq_1]
    cases plain with
    | map distinct keysPlain each =>
      refine (entryLeaves_paths path es distinct each).below fun st member => ?_
      obtain ⟨e, inEs, rfl⟩ := List.mem_map.mp member
      exact keysPlain e inEs
    | leaf notMap _ => exact absurd rfl (notMap _ _)
  | .list xs, plain => by
    rw [leavesOf.eq_2]
    cases plain with
    | list each =>
      refine (itemLeaves_paths path 0 xs each).below fun st member => ?_
      obtain ⟨i, -, rfl⟩ := List.mem_map.mp member
      exact index_plain i
    | leaf _ notList => exact absurd rfl (notList _)
  | .none, _ | .bool _, _ | .int _, _ | .float _, _ | .str _, _ | .bytes _, _ | .date _, _ | .moment _, _
  | .tuple _, _ | .set _, _ | .cycle _, _ | .range _ _ _, _ | .complex _ _, _ | .classObject _, _ => by
    rw [leavesOf_leaf path _ (fun _ _ same => by cases same) (fun _ same => by cases same)]
    exact PathsBelow.leaf path _

theorem entryLeaves_paths (path : List Step) :
    ∀ es : List (Value × Value), (es.map fun e => e.1.text).Nodup → (∀ e ∈ es, PlainKeys e.2) →
      PathsThrough path (es.map fun e => Step.key e.1) (entryLeaves path es)
  | [], _, _ => PathsThrough.nil path []
  | (k, v) :: rest, distinct, each => by
    have restThrough := entryLeaves_paths path rest (List.nodup_cons.mp distinct).2
      fun e member => each e (List.mem_cons_of_mem _ member)
    by_cases skipped : v = .none
    · -- a null value is skipped
      subst skipped
      rw [entryLeaves.eq_2]
      exact restThrough.mono fun st member => List.mem_cons_of_mem _ member
    · rw [entryLeaves.eq_3 path k v rest skipped]
      refine PathsThrough.cons (leavesOf_paths (path ++ [.key k]) v (each (k, v) List.mem_cons_self))
        restThrough ?_
      simpa [Step.text] using (List.nodup_cons.mp distinct).1

theorem itemLeaves_paths (path : List Step) (i : Nat) :
    ∀ xs : List Value, (∀ x ∈ xs, PlainKeys x) →
      PathsThrough path ((List.range' i xs.length).map Step.index) (itemLeaves path i xs)
  | [], _ => PathsThrough.nil path _
  | x :: rest, each => by
    rw [itemLeaves.eq_2, List.length_cons, List.range'_succ, List.map_cons]
    refine PathsThrough.cons (leavesOf_paths (path ++ [.index i]) x (each x List.mem_cons_self))
      (itemLeaves_paths path (i + 1) rest fun y member => each y (List.mem_cons_of_mem _ member)) ?_
    -- a later index is written otherwise
    intro written
    obtain ⟨st, member, same⟩ := List.mem_map.mp written
    obtain ⟨j, later, rfl⟩ := List.mem_map.mp member
    have := index_text_inj same
    simp only [List.mem_range'_1] at later
    omega

end

theorem names_leafItems_sublist (leaves : List (List Step × Value)) :
    List.Sublist ((leaves.filterMap leafItem).map Prod.fst) (leaves.map fun l => pathName l.1) := by
  induction leaves with
  | nil => exact List.Sublist.slnil
  | cons l rest ih =>
    rw [List.filterMap_cons, List.map_cons]
    cases given : leafItem l with
    | none => exact ih.cons _
    | some item =>
      have named : item.1 = pathName l.1 := by
        unfold leafItem at given
        obtain ⟨stmt, -, rfl⟩ := Option.map_eq_some_iff.mp given
        rfl
      rw [List.map_cons, named]
      exact ih.cons_cons _

/-- When every mapping of a trace writes its keys without dots and no two alike, distinct leaves
of the trace have distinct dotted names, and so the items they give have distinct names. -/
theorem leafItems_names_nodup {es : List (Value × Value)} {locs : Option (List (Value × String × String))}
    (plain : PlainKeys (.map es locs)) : ((leafItems (.map es locs)).map Prod.fst).Nodup := by
  obtain ⟨distinct, keysPlain, each⟩ : (es.map fun e => e.1.text).Nodup ∧ (∀ e ∈ es, (Step.key e.1).Plain) ∧
      ∀ e ∈ es, PlainKeys e.2 := by
    cases plain with
    | map distinct keysPlain each => exact ⟨distinct, keysPlain, each⟩
    | leaf notMap _ => exact absurd rfl (notMap _ _)
  have through := entryLeaves_paths [] es distinct each
  rw [leafItems, leavesOf.eq_1]
  refine (names_leafItems_sublist _).nodup (List.Nodup.map_on (fun l member l' member' same => ?_)
    (through.2.of_map _))
  -- each leaf's path starts with a key of the trace, and all its steps are written without dots
  have nonempty_plain : ∀ l ∈ entryLeaves [] es, l.1 ≠ [] ∧ ∀ st ∈ l.1, st.Plain := by
    intro l member
    obtain ⟨first, inFirsts, rel, split, plainRel⟩ := through.1 l member
    obtain ⟨e, inEs, rfl⟩ := List.mem_map.mp inFirsts
    refine ⟨by simp [split], fun st inPath => ?_⟩
    rw [split, List.nil_append] at inPath
    rcases List.mem_cons.mp inPath with rfl | later
    · exact keysPlain e inEs
    · exact plainRel st later
  obtain ⟨nonempty, plainSteps⟩ := nonempty_plain l member
  obtain ⟨nonempty', plainSteps'⟩ := nonempty_plain l' member'
  exact List.inj_on_of_nodup_map through.2 member member'
    (pathName_inj nonempty nonempty' plainSteps plainSteps' same)

/-- Walking a trace mapping with no null list item gives its select items without failing: the
items of its leaves, in walk order, gathered by name. Every name is held once, with the
statement of the last leaf of that name. When every mapping of the trace writes its keys
without dots and no two alike, distinct leaves have distinct names, and the select items are
the items of the leaves, one for each, in walk order. -/
theorem selectItems_by_leaves {es : List (Value × Value)} {locs : Option (List (Value × String × String))}
    (noNull : ¬ NullItem (.map es locs)) :
    ∃ items, selectItems (.map es locs) = .ok items ∧ (items.map Prod.fst).Nodup ∧
      (∀ n s, (n, s) ∈ items ↔
        ∃ pre post, leafItems (.map es locs) = pre ++ (n, s) :: post ∧ n ∉ post.map Prod.fst) ∧
      (PlainKeys (.map es locs) →
        ((leafItems (.map es locs)).map Prod.fst).Nodup ∧ items = leafItems (.map es locs)) := by
  refine ⟨_, selectItems_merges noNull, nodup_mergeItems nothing_gathered _, fun n s => ?_, fun plain => ?_⟩
  · rw [mem_mergeItems nothing_gathered]
    simp
  · have distinct := leafItems_names_nodup plain
    exact ⟨distinct, mergeItems_of_nodup (by simpa using distinct)⟩

theorem PlainKeys.text (s : String) : PlainKeys (.str s) :=
  .leaf (fun _ _ same => by cases same) (fun _ same => by cases same)

/-- A trace with a list of select items under `props` and one under `columns`. -/
def surfaceTrace : Value :=
  .record [("name", .str "surface"),
    ("props", .record [("type", .str "surface"), ("z", .list [.str "query(x+10)", .str "query(y+15)"])]),
    ("columns", .record [("c", .str "a > 1")])]

theorem surfaceTrace_items :
    ¬ NullItem surfaceTrace ∧ PlainKeys surfaceTrace ∧
      leafItems surfaceTrace = [("props.z.0", "x+10"), ("props.z.1", "y+15"), ("columns.c", "a > 1")] ∧
      selectItems surfaceTrace = .ok (leafItems surfaceTrace) := by
  have noNull : ¬ NullItem surfaceTrace := by decide +kernel
  have plain : PlainKeys surfaceTrace := by
    refine .map (by decide +kernel) (by decide +kernel) fun e member => ?_
    simp only [Value.record, List.map_cons, List.map_nil, List.mem_cons, List.not_mem_nil, or_false] at member
    rcases member with rfl | rfl | rfl
    · exact .text _
    · refine .map (by decide +kernel) (by decide +kernel) fun e member => ?_
      simp only [List.mem_cons, List.not_mem_nil, or_false] at member
      rcases member with rfl | rfl
      · exact .text _
      · refine .list fun x member => ?_
        simp only [List.mem_cons, List.not_mem_nil, or_false] at member
        rcases member with rfl | rfl <;> exact .text _
    · refine .map (by decide +kernel) (by decide +kernel) fun e member => ?_
      simp only [List.mem_cons, List.not_mem_nil, or_false] at member
      rcases member with rfl
      exact .text _
  obtain ⟨items, walked, -, -, byLeaves⟩ := selectItems_by_leaves noNull
  exact ⟨noNull, plain, by decide +kernel, walked.trans (congrArg Except.ok (byLeaves plain).2)⟩

/-- A trace with a column named `a.b` and a column `a` that holds `b`. -/
def dottedColumns : Value :=
  .record [("name", .str "t"), ("columns", .record [("a.b", .str "x"), ("a", .record [("b", .str "y")])])]

/-- The two leaves of `dottedColumns` are both named `columns.a.b`; the select items keep one
entry for them, with the later statement. -/
theorem dottedKeys_collide :
    leafItems dottedColumns = [("columns.a.b", "x"), ("columns.a.b", "y")] ∧
      selectItems dottedColumns = .ok [("columns.a.b", "y")] := by
  decide +kernel

end Dashwright.Query
