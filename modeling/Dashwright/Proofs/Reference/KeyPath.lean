import Dashwright.Reference.Nav
import Dashwright.Proofs.Loops

/-!
Finding a key in nested mappings and lists, and replacing what it holds.

A place inside a value is told by the frames around it (`Frame`, `plug`): for each container
on the way down, the items of a list before and after the place, or the entries of a mapping
before and after the entry that holds it. The entries of the mappings inside a value, listed
depth first (`entryPositions`: a mapping's entries in order, each key before the entries its
value holds, a list's items by index), are exactly the places where a key stands
(`mem_entryPositions_iff`), and what the frames hold around a place does not depend on what
stands in it (`entryPositions_plug`).

The search for a key gives the path of the first listed entry whose key equals it
(`findPath_eq_find?`), so nothing exactly when no mapping inside the value has such a key. On a
value built from dictionaries and lists over scalars, whose keys are as a dictionary holds them,
replacing along that path puts the new value in that one place, keeps everything around it,
and the key is still the first found there (`findPath_then_replace`).
-/

namespace Dashwright.Reference

def isScalar : Value → Bool
  | .list _ | .tuple _ | .set _ | .map _ _ | .cycle _ => false
  | _ => true

/-- Keys as a dictionary holds them: each hashable and equal to itself, and no two equal. A
float NaN, which only its own object finds, is left out. -/
def DictKeys (ks : List Value) : Prop :=
  (∀ k ∈ ks, k.hashable = true ∧ Value.equal k k = true) ∧
    ks.Pairwise fun a b => Value.equal a b = false ∧ Value.equal b a = false

/-- A value built from dictionaries and lists over scalar leaves. -/
inductive Nested : Value → Prop
  | scalar {v : Value} : isScalar v = true → Nested v
  | list {xs : List Value} : (∀ x ∈ xs, Nested x) → Nested (.list xs)
  | map {es : List (Value × Value)} {locs : Option (List (Value × String × String))} :
      DictKeys (es.map Prod.fst) → (∀ e ∈ es, Nested e.2) → Nested (.map es locs)

/-- A value stands inside another: it is the other, or it stands inside one of its items or
inside the value of one of its entries. -/
inductive Inside : Value → Value → Prop
  | refl (v : Value) : Inside v v
  | item {xs : List Value} {x v : Value} : x ∈ xs → Inside v x → Inside v (.list xs)
  | entry {es : List (Value × Value)} {locs : Option (List (Value × String × String))}
      {k x v : Value} : (k, x) ∈ es → Inside v x → Inside v (.map es locs)

/-- A place in a container, with everything the container holds around it: the items of a
list before and after the place, or the entries of a mapping before and after the entry of
a key. -/
inductive Frame where
  | item (before after : List Value)
  | entry (before : List (Value × Value)) (key : Value) (after : List (Value × Value))
      (locs : Option (List (Value × String × String)))

namespace Frame

/-- The container a frame makes around a value. -/
def fill : Frame → Value → Value
  | item b a, v => .list (b ++ v :: a)
  | entry b k a locs, v => .map (b ++ (k, v) :: a) locs

/-- The step that leads into a frame's place: its index in a list, its key in a mapping. -/
def step : Frame → Value
  | item b _ => .int b.length
  | entry _ k _ _ => k

/-- The key of an entry frame is found and set at its place: it is hashable, equal to
itself and to no key before it. -/
def Keyed : Frame → Prop
  | item _ _ => True
  | entry b k _ _ => k.hashable = true ∧ Value.equal k k = true ∧ ∀ e ∈ b, Value.equal k e.1 = false

end Frame

/-- A value put in its place inside frames, the outermost first. -/
def plug (fs : List Frame) (v : Value) : Value := fs.foldr Frame.fill v

@[simp] theorem plug_nil (v : Value) : plug [] v = v := rfl

@[simp] theorem plug_cons (f : Frame) (fs : List Frame) (v : Value) :
    plug (f :: fs) v = f.fill (plug fs v) := rfl

theorem plug_append (fs gs : List Frame) (v : Value) : plug (fs ++ gs) v = plug fs (plug gs v) :=
  List.foldr_append

/-- A position seen from a container further out: the path to it grows by the steps between. -/
def below (q : List Value) (e : List Value × Value) : List Value × Value := (q ++ e.1, e.2)

@[simp] theorem below_snd (q : List Value) (e : List Value × Value) : (below q e).2 = e.2 := rfl

theorem map_below_nil (l : List (List Value × Value)) : l.map (below []) = l := by
  rw [show below [] = id from rfl, List.map_id]

@[simp] theorem below_below (q r : List Value) (e : List Value × Value) :
    below q (below r e) = below (q ++ r) e := by
  simp [below]

mutual

/-- The entries of the mappings inside a value, depth first: a mapping's entries in order, each
key before the entries its value holds, a list's items by index. Each entry is given by its path
of keys and indices, which ends with its key, and by its key. -/
def entryPositions : Value → List (List Value × Value)
  | .map es _ => entriesPositions es
  | .list xs => itemsPositions 0 xs
  | _ => []

def entriesPositions : List (Value × Value) → List (List Value × Value)
  | [] => []
  | (k, v) :: rest => ([k], k) :: ((entryPositions v).map (below [k]) ++ entriesPositions rest)

def itemsPositions (i : Nat) : List Value → List (List Value × Value)
  | [] => []
  | x :: rest => (entryPositions x).map (below [.int i]) ++ itemsPositions (i + 1) rest

end

/-- The entry of a key stands in a value at a path: frames around a mapping that holds the key
make the value, and the path is their steps, then the key. -/
def EntryAt (o : Value) (p : List Value) (k : Value) : Prop :=
  ∃ fs b a locs w, o = plug fs (.map (b ++ (k, w) :: a) locs) ∧ p = fs.map Frame.step ++ [k]

theorem entriesPositions_append (b c : List (Value × Value)) :
    entriesPositions (b ++ c) = entriesPositions b ++ entriesPositions c := by
  induction b with
  | nil => rfl
  | cons e b ih =>
    obtain ⟨k, v⟩ := e
    simp [entriesPositions, ih]

theorem itemsPositions_append (i : Nat) (b c : List Value) :
    itemsPositions i (b ++ c) = itemsPositions i b ++ itemsPositions (i + b.length) c := by
  induction b generalizing i with
  | nil => simp [itemsPositions]
  | cons x b ih =>
    rw [List.cons_append, itemsPositions, itemsPositions, ih, List.length_cons, List.append_assoc,
      Nat.add_assoc, Nat.add_comm 1]

theorem entryPositions_fill (f : Frame) : ∃ before after, ∀ x,
    entryPositions (f.fill x) = before ++ (entryPositions x).map (below [f.step]) ++ after := by
  cases f with
  | item b a =>
    refine ⟨itemsPositions 0 b, itemsPositions (b.length + 1) a, fun x => ?_⟩
    simp [Frame.fill, Frame.step, entryPositions, itemsPositions_append, itemsPositions]
  | entry b k a locs =>
    refine ⟨entriesPositions b ++ [([k], k)], entriesPositions a, fun x => ?_⟩
    simp [Frame.fill, Frame.step, entryPositions, entriesPositions_append, entriesPositions]

theorem entryPositions_plug (fs : List Frame) : ∃ before after, ∀ x,
    entryPositions (plug fs x) =
      before ++ (entryPositions x).map (below (fs.map Frame.step)) ++ after := by
  induction fs with
  | nil => exact ⟨[], [], fun x => by simp [map_below_nil]⟩
  | cons f fs ih =>
    obtain ⟨before, after, around⟩ := ih
    obtain ⟨fBefore, fAfter, fAround⟩ := entryPositions_fill f
    refine ⟨fBefore ++ before.map (below [f.step]), after.map (below [f.step]) ++ fAfter, fun x => ?_⟩
    rw [plug_cons, fAround, around]
    simp [List.append_assoc]

theorem entryPositions_at_entry (fs : List Frame) (b a : List (Value × Value)) (k : Value)
    (locs : Option (List (Value × String × String))) : ∃ before, ∀ w, ∃ after,
      entryPositions (plug fs (.map (b ++ (k, w) :: a) locs)) =
        before ++ (fs.map Frame.step ++ [k], k) :: after := by
  obtain ⟨before, after, around⟩ := entryPositions_plug fs
  refine ⟨before ++ (entriesPositions b).map (below (fs.map Frame.step)), fun w =>
    ⟨((entryPositions w).map (below [k]) ++ entriesPositions a).map (below (fs.map Frame.step)) ++ after, ?_⟩⟩
  rw [around]
  simp [entryPositions, entriesPositions_append, entriesPositions, below, List.append_assoc]

theorem mem_map_below_step {s : Value} {l : List (List Value × Value)} {p : List Value} {k : Value}
    (member : (p, k) ∈ l.map (below [s])) : ∃ q, p = s :: q ∧ (q, k) ∈ l := by
  obtain ⟨⟨q, k'⟩, hit, same⟩ := List.mem_map.mp member
  simp only [below, Prod.mk.injEq, List.singleton_append] at same
  obtain ⟨rfl, rfl⟩ := same
  exact ⟨q, rfl, hit⟩

mutual

theorem entryAt_of_mem {p : List Value} {k : Value} :
    ∀ {o : Value}, (p, k) ∈ entryPositions o → EntryAt o p k
  | .map es locs, member => by
    rw [entryPositions] at member
    obtain ⟨b, k0, x, a, rfl, ⟨rfl, rfl⟩ | ⟨q, rfl, fs, c, d, lc, w, rfl, rfl⟩⟩ :=
      entryAt_of_mem_entries member
    · exact ⟨[], b, a, locs, x, rfl, rfl⟩
    · exact ⟨.entry b k0 a locs :: fs, c, d, lc, w, rfl, rfl⟩
  | .list xs, member => by
    rw [entryPositions] at member
    obtain ⟨b, x, a, rfl, q, rfl, fs, c, d, lc, w, rfl, rfl⟩ := entryAt_of_mem_items 0 member
    exact ⟨.item b a :: fs, c, d, lc, w, rfl, by simp [Frame.step]⟩
  | .none, member | .bool _, member | .int _, member | .float _, member | .str _, member
  | .bytes _, member | .date _, member | .moment _, member | .tuple _, member | .set _, member
  | .cycle _, member | .range _ _ _, member | .complex _ _, member | .classObject _, member => by
    simp [entryPositions] at member
termination_by structural o => o

theorem entryAt_of_mem_entries {p : List Value} {k : Value} :
    ∀ {es : List (Value × Value)}, (p, k) ∈ entriesPositions es →
      ∃ b k0 x a, es = b ++ (k0, x) :: a ∧ ((p = [k0] ∧ k0 = k) ∨ ∃ q, p = k0 :: q ∧ EntryAt x q k)
  | [], member => by simp [entriesPositions] at member
  | (k0, v0) :: rest, member => by
    rw [entriesPositions, List.mem_cons, List.mem_append] at member
    rcases member with here | inner | later
    · obtain ⟨rfl, rfl⟩ := Prod.mk.inj here
      exact ⟨[], k, v0, rest, rfl, .inl ⟨rfl, rfl⟩⟩
    · obtain ⟨q, rfl, hit⟩ := mem_map_below_step inner
      exact ⟨[], k0, v0, rest, rfl, .inr ⟨q, rfl, entryAt_of_mem hit⟩⟩
    · obtain ⟨b, k1, x, a, rfl, found⟩ := entryAt_of_mem_entries later
      exact ⟨(k0, v0) :: b, k1, x, a, rfl, found⟩
termination_by structural es => es

theorem entryAt_of_mem_items {p : List Value} {k : Value} (i : Nat) :
    ∀ {xs : List Value}, (p, k) ∈ itemsPositions i xs →
      ∃ b x a, xs = b ++ x :: a ∧ ∃ q, p = .int ↑(i + b.length) :: q ∧ EntryAt x q k
  | [], member => by simp [itemsPositions] at member
  | x :: rest, member => by
    rw [itemsPositions, List.mem_append] at member
    rcases member with inner | later
    · obtain ⟨q, rfl, hit⟩ := mem_map_below_step inner
      exact ⟨[], x, rest, rfl, q, by simp, entryAt_of_mem hit⟩
    · obtain ⟨b, y, a, rfl, q, rfl, found⟩ := entryAt_of_mem_items (i + 1) later
      exact ⟨x :: b, y, a, rfl, q, by simp [Nat.add_assoc, Nat.add_comm 1], found⟩
termination_by structural xs => xs

end

theorem mem_of_entryAt {o : Value} {p : List Value} {k : Value} (at_k : EntryAt o p k) :
    (p, k) ∈ entryPositions o := by
  obtain ⟨fs, b, a, locs, w, rfl, rfl⟩ := at_k
  obtain ⟨before, listed⟩ := entryPositions_at_entry fs b a k locs
  obtain ⟨after, split⟩ := listed w
  rw [split]
  exact List.mem_append_right _ List.mem_cons_self

theorem mem_entryPositions_iff {o : Value} {p : List Value} {k : Value} :
    (p, k) ∈ entryPositions o ↔ EntryAt o p k :=
  ⟨entryAt_of_mem, mem_of_entryAt⟩

theorem inside_plug (fs : List Frame) (v : Value) : Inside v (plug fs v) := by
  induction fs with
  | nil => exact .refl v
  | cons f fs ih =>
    cases f with
    | item b a => exact .item (List.mem_append_right b List.mem_cons_self) ih
    | entry b k a locs => exact .entry (List.mem_append_right b List.mem_cons_self) ih

theorem inside_iff_plug {m o : Value} : Inside m o ↔ ∃ fs, o = plug fs m := by
  constructor
  · intro inside
    induction inside with
    | refl v => exact ⟨[], rfl⟩
    | item member _ ih =>
      obtain ⟨fs, rfl⟩ := ih
      obtain ⟨b, a, rfl⟩ := List.append_of_mem member
      exact ⟨.item b a :: fs, rfl⟩
    | @entry es locs k x v member _ ih =>
      obtain ⟨fs, rfl⟩ := ih
      obtain ⟨b, a, rfl⟩ := List.append_of_mem member
      exact ⟨.entry b k a locs :: fs, rfl⟩
  · rintro ⟨fs, rfl⟩
    exact inside_plug fs m

theorem exists_entryAt_iff {o : Value} {P : Value → Prop} :
    (∃ p k, EntryAt o p k ∧ P k) ↔ ∃ es locs, Inside (.map es locs) o ∧ ∃ e ∈ es, P e.1 := by
  constructor
  · rintro ⟨p, k, ⟨fs, b, a, locs, w, rfl, -⟩, holds⟩
    exact ⟨_, locs, inside_plug fs _, (k, w), by simp, holds⟩
  · rintro ⟨es, locs, inside, ⟨k, w⟩, member, holds⟩
    obtain ⟨fs, rfl⟩ := inside_iff_plug.mp inside
    obtain ⟨b, a, rfl⟩ := List.append_of_mem member
    exact ⟨_, k, ⟨fs, b, a, locs, w, rfl, rfl⟩, holds⟩

theorem find?_map_below (k : Value) (q : List Value) (l : List (List Value × Value)) :
    (l.map (below q)).find? (fun e => Value.equal e.2 k) =
      (l.find? fun e => Value.equal e.2 k).map (below q) := by
  rw [List.find?_map]
  rfl

mutual

/-- The search for a key gives the path of the first listed entry whose key equals it, after
the path it started from. -/
theorem findPath_eq_find? (k : Value) (path : List Value) : ∀ o : Value,
    findPath k path o =
      ((entryPositions o).find? fun e => Value.equal e.2 k).map fun e => path ++ e.1
  | .map es locs => by
    rw [findPath, entryPositions]
    exact findInEntries_eq_find? k path es
  | .list xs => by
    rw [findPath, entryPositions]
    exact findInItems_eq_find? k path 0 xs
  | .none | .bool _ | .int _ | .float _ | .str _ | .bytes _ | .date _ | .moment _ | .tuple _
  | .set _ | .cycle _ | .range _ _ _ | .complex _ _ | .classObject _ => by
    simp [findPath, entryPositions]

theorem findInEntries_eq_find? (k : Value) (path : List Value) : ∀ es : List (Value × Value),
    findInEntries k path es =
      ((entriesPositions es).find? fun e => Value.equal e.2 k).map fun e => path ++ e.1
  | [] => rfl
  | (k0, v0) :: rest => by
    rw [findInEntries, entriesPositions, List.find?_cons, List.find?_append, find?_map_below,
      findPath_eq_find? k (path ++ [k0]) v0, findInEntries_eq_find? k path rest]
    -- the key is checked first, then what its value holds, then the later entries
    cases Value.equal k0 k with
    | true => simp
    | false => cases (entryPositions v0).find? (fun e => Value.equal e.2 k) <;> simp [below]

theorem findInItems_eq_find? (k : Value) (path : List Value) (i : Nat) : ∀ xs : List Value,
    findInItems k path i xs =
      ((itemsPositions i xs).find? fun e => Value.equal e.2 k).map fun e => path ++ e.1
  | [] => rfl
  | x :: rest => by
    rw [findInItems, itemsPositions, List.find?_append, find?_map_below,
      findPath_eq_find? k (path ++ [Value.int (i : Int)]) x, findInItems_eq_find? k path (i + 1) rest]
    cases (entryPositions x).find? (fun e => Value.equal e.2 k) <;> simp [below]

end

theorem findPath_nil_eq_find? (k o : Value) :
    findPath k [] o = ((entryPositions o).find? fun e => Value.equal e.2 k).map Prod.fst := by
  rw [findPath_eq_find?]
  simp

theorem findPath_eq_none_iff (k o : Value) :
    findPath k [] o = none ↔
      ¬ ∃ es locs, Inside (.map es locs) o ∧ ∃ e ∈ es, Value.equal e.1 k = true := by
  rw [findPath_nil_eq_find?, Option.map_eq_none_iff, List.find?_eq_none,
    ← exists_entryAt_iff (P := fun k' => Value.equal k' k = true)]
  simp only [Prod.forall, ← mem_entryPositions_iff, not_exists, not_and]

theorem find?_append_cons_of_eq_some {α : Type} {P : α → Bool} {l r r' : List α} {e : α}
    (found : (l ++ e :: r).find? P = some e) : (l ++ e :: r').find? P = some e := by
  rw [List.find?_append] at found ⊢
  cases first : l.find? P with
  | some e0 =>
    rw [first, Option.some_or] at found
    rw [Option.some_or, found]
  | none =>
    rw [first, Option.none_or] at found
    rw [Option.none_or]
    have holds : P e = true := by
      cases here : P e with
      | true => rfl
      | false =>
        rw [List.find?_cons_of_neg (by simp [here])] at found
        exact absurd (List.find?_some found) (by simp [here])
    exact List.find?_cons_of_pos holds

section Replace

variable {b a : List (Value × Value)} {k : Value}

theorem lookupEntry_at (self : Value.equal k k = true) (earlier : ∀ e ∈ b, Value.equal k e.1 = false)
    (x : Value) : lookupEntry k (b ++ (k, x) :: a) = some x := by
  induction b with
  | nil => simp [lookupEntry, self]
  | cons e b ih =>
    obtain ⟨k2, v2⟩ := e
    rw [List.cons_append, lookupEntry, earlier (k2, v2) List.mem_cons_self, if_neg Bool.false_ne_true]
    exact ih fun e member => earlier e (List.mem_cons_of_mem _ member)

theorem insertEntry_at (self : Value.equal k k = true) (earlier : ∀ e ∈ b, Value.equal k e.1 = false)
    (x y : Value) : insertEntry k y (b ++ (k, x) :: a) = b ++ (k, y) :: a := by
  induction b with
  | nil => simp [insertEntry, self]
  | cons e b ih =>
    obtain ⟨k2, v2⟩ := e
    rw [List.cons_append, insertEntry, earlier (k2, v2) List.mem_cons_self, if_neg Bool.false_ne_true,
      ih fun e member => earlier e (List.mem_cons_of_mem _ member), List.cons_append]

end Replace

theorem listPosition_at (b a : List Value) (x : Value) :
    listPosition (b.length : Int) (b ++ x :: a).length = some b.length := by
  have nonneg : ¬ (b.length : Int) < 0 := by omega
  have inRange : 0 ≤ (b.length : Int) ∧ (b.length : Int) < ((b ++ x :: a).length : Int) := by
    rw [List.length_append, List.length_cons]
    omega
  simp only [listPosition, if_neg nonneg, if_pos inRange, Int.toNat_natCast]

theorem set_at (b a : List Value) (x y : Value) : (b ++ x :: a).set b.length y = b ++ y :: a := by
  simp

theorem assignItem_fill {f : Frame} (keyed : f.Keyed) (x v : Value) :
    assignItem (f.fill x) f.step v = .ok (f.fill v) := by
  cases f with
  | item b a =>
    simp only [Frame.fill, Frame.step, assignItem]
    rw [show stepIndex (.int b.length) = .ok b.length from rfl, ok_bind, listPosition_at]
    simp only [set_at]
    rfl
  | entry b k a locs =>
    obtain ⟨hashable, self, earlier⟩ := keyed
    simp only [Frame.fill, Frame.step, assignItem, hashable, if_true, insertEntry_at self earlier]
    rfl

theorem replaceUsingPath_fill {f : Frame} (keyed : f.Keyed) {x y v : Value} {rest : List Value}
    (more : rest ≠ []) (inner : replaceUsingPath v x rest = .ok y) :
    replaceUsingPath v (f.fill x) (f.step :: rest) = .ok (f.fill y) := by
  obtain ⟨r, rs, rfl⟩ := List.exists_cons_of_ne_nil more
  cases f with
  | item b a =>
    simp only [Frame.fill, Frame.step, replaceUsingPath]
    rw [show stepIndex (.int b.length) = .ok b.length from rfl, ok_bind, listPosition_at]
    have atPlace : (b ++ x :: a).getD b.length .none = x := by simp
    simp only [atPlace, inner, ok_bind, set_at]
    rfl
  | entry b k a locs =>
    obtain ⟨hashable, self, earlier⟩ := keyed
    simp only [Frame.fill, Frame.step, replaceUsingPath, hashable, Bool.not_true]
    rw [if_neg Bool.false_ne_true, lookupEntry_at self earlier]
    simp only [inner, ok_bind, insertEntry_at self earlier]
    rfl

/-- Replacing along the steps of frames puts the new value in their place. -/
theorem replaceUsingPath_plug {fs : List Frame} (keyed : ∀ f ∈ fs, f.Keyed) (placed : fs ≠ [])
    (w v : Value) : replaceUsingPath v (plug fs w) (fs.map Frame.step) = .ok (plug fs v) := by
  induction fs with
  | nil => exact absurd rfl placed
  | cons f fs ih =>
    cases fs with
    | nil =>
      rw [List.map_singleton, plug_cons, plug_cons, plug_nil, plug_nil, replaceUsingPath.eq_2]
      exact assignItem_fill (keyed f List.mem_cons_self) w v
    | cons g gs =>
      have inner := ih (fun f' member => keyed f' (List.mem_cons_of_mem _ member)) (List.cons_ne_nil _ _)
      exact replaceUsingPath_fill (keyed f List.mem_cons_self) (List.cons_ne_nil _ _) inner

theorem Nested.fill {f : Frame} {x : Value} (nested : Nested (f.fill x)) : f.Keyed ∧ Nested x := by
  cases f with
  | item b a =>
    cases nested with
    | scalar scalar => cases scalar
    | list each => exact ⟨trivial, each x (by simp)⟩
  | entry b k a locs =>
    cases nested with
    | scalar scalar => cases scalar
    | map keys each =>
      obtain ⟨proper, distinct⟩ := keys
      rw [List.map_append, List.map_cons, List.pairwise_append] at distinct
      refine ⟨⟨(proper k (by simp)).1, (proper k (by simp)).2, fun e member => ?_⟩, each (k, x) (by simp)⟩
      exact (distinct.2.2 e.1 (List.mem_map_of_mem member) k List.mem_cons_self).2

theorem Nested.keyed_of_plug {fs : List Frame} {x : Value} (nested : Nested (plug fs x)) :
    ∀ f ∈ fs, f.Keyed := by
  induction fs with
  | nil => simp
  | cons f fs ih =>
    obtain ⟨keyed, inner⟩ := Nested.fill nested
    intro f' member
    rcases List.mem_cons.mp member with rfl | later
    · exact keyed
    · exact ih inner f' later

def dictKeysCheck : List Value → Bool
  | [] => true
  | k :: rest => k.hashable && Value.equal k k &&
      rest.all (fun b => !Value.equal k b && !Value.equal b k) && dictKeysCheck rest

mutual

/-- Whether a value is built from dictionaries and lists over scalar leaves. -/
def nestedCheck : Value → Bool
  | .map es _ => dictKeysCheck (es.map Prod.fst) && entriesNestedCheck es
  | .list xs => itemsNestedCheck xs
  | v => isScalar v

def entriesNestedCheck : List (Value × Value) → Bool
  | [] => true
  | (_, v) :: rest => nestedCheck v && entriesNestedCheck rest

def itemsNestedCheck : List Value → Bool
  | [] => true
  | x :: rest => nestedCheck x && itemsNestedCheck rest

end

theorem dictKeys_of_check {ks : List Value} (check : dictKeysCheck ks = true) : DictKeys ks := by
  induction ks with
  | nil => exact ⟨fun _ member => (by cases member), List.Pairwise.nil⟩
  | cons k rest ih =>
    simp only [dictKeysCheck, Bool.and_eq_true, List.all_eq_true, Bool.not_eq_true'] at check
    obtain ⟨⟨⟨hashable, self⟩, apart⟩, later⟩ := check
    obtain ⟨proper, distinct⟩ := ih later
    refine ⟨fun k' member => ?_, List.pairwise_cons.mpr ⟨apart, distinct⟩⟩
    rcases List.mem_cons.mp member with rfl | inRest
    · exact ⟨hashable, self⟩
    · exact proper k' inRest

mutual

theorem nested_of_check : ∀ {v : Value}, nestedCheck v = true → Nested v
  | .map es locs, check => by
    rw [nestedCheck, Bool.and_eq_true] at check
    exact .map (dictKeys_of_check check.1) (nested_of_entriesCheck check.2)
  | .list xs, check => .list (nested_of_itemsCheck check)
  | .none, check | .bool _, check | .int _, check | .float _, check | .str _, check
  | .bytes _, check | .date _, check | .moment _, check | .tuple _, check | .set _, check
  | .cycle _, check | .range _ _ _, check | .complex _ _, check | .classObject _, check =>
    .scalar check

theorem nested_of_entriesCheck : ∀ {es : List (Value × Value)}, entriesNestedCheck es = true →
    ∀ e ∈ es, Nested e.2
  | [], _ => fun _ member => by cases member
  | (k, v) :: rest, check => by
    rw [entriesNestedCheck, Bool.and_eq_true] at check
    intro e member
    rcases List.mem_cons.mp member with rfl | later
    · exact nested_of_check check.1
    · exact nested_of_entriesCheck check.2 e later

theorem nested_of_itemsCheck : ∀ {xs : List Value}, itemsNestedCheck xs = true → ∀ x ∈ xs, Nested x
  | [], _ => fun _ member => by cases member
  | y :: rest, check => by
    rw [itemsNestedCheck, Bool.and_eq_true] at check
    intro x member
    rcases List.mem_cons.mp member with same | later
    · exact same ▸ nested_of_check check.1
    · exact nested_of_itemsCheck check.2 x later

end

/-- On a value built from dictionaries and lists, searching for a key gives the path of the
first entry, depth first, whose key equals it, and nothing exactly when no mapping inside has
such a key. Replacing along the path found puts the new value in the place of that entry's value
and keeps everything around it, and searching again finds the same path. -/
theorem findPath_then_replace {o : Value} (nested : Nested o) (k v : Value) :
    findPath k [] o = ((entryPositions o).find? fun e => Value.equal e.2 k).map Prod.fst ∧
    (findPath k [] o = none ↔
      ¬ ∃ es locs, Inside (.map es locs) o ∧ ∃ e ∈ es, Value.equal e.1 k = true) ∧
    ∀ p, findPath k [] o = some p →
      ∃ fs w, o = plug fs w ∧ fs.map Frame.step = p ∧
        replaceUsingPath v o p = .ok (plug fs v) ∧ findPath k [] (plug fs v) = some p := by
  have first := findPath_nil_eq_find? k o
  refine ⟨first, findPath_eq_none_iff k o, fun p found => ?_⟩
  rw [first, Option.map_eq_some_iff] at found
  obtain ⟨⟨q, k'⟩, hit, rfl⟩ := found
  obtain ⟨fs, b, a, locs, w, rfl, rfl⟩ := entryAt_of_mem (List.mem_of_find?_eq_some hit)
  -- the place is the value of the entry found, inside the frames on the way to its mapping
  have placed : plug (fs ++ [Frame.entry b k' a locs]) w = plug fs (.map (b ++ (k', w) :: a) locs) :=
    plug_append _ _ _
  have replaced : plug (fs ++ [Frame.entry b k' a locs]) v = plug fs (.map (b ++ (k', v) :: a) locs) :=
    plug_append _ _ _
  have steps : (fs ++ [Frame.entry b k' a locs]).map Frame.step = fs.map Frame.step ++ [k'] := by
    simp [Frame.step]
  refine ⟨fs ++ [Frame.entry b k' a locs], w, placed.symm, steps, ?_, ?_⟩
  · dsimp only
    have keyed := Nested.keyed_of_plug (by rw [placed]; exact nested)
    rw [← steps, ← placed]
    exact replaceUsingPath_plug keyed (by simp) w v
  · -- the entries up to the one found are the same after the replacement
    dsimp only
    obtain ⟨before, listed⟩ := entryPositions_at_entry fs b a k' locs
    obtain ⟨afterW, splitW⟩ := listed w
    obtain ⟨afterV, splitV⟩ := listed v
    rw [splitW] at hit
    rw [replaced, findPath_nil_eq_find?, splitV, find?_append_cons_of_eq_some hit]
    rfl

/-- The navigation of the documentation pages: guides, then the reference with its configuration
and its command line. -/
def docsNav : Value :=
  .dict [(.str "nav", .list [.dict [(.str "getting started", .str "index.md")],
    .dict [(.str "including", .str "index.md")],
    .dict [(.str "reference", .list [
      .dict [(.str "configuration", .dict [(.str "trace", .list []), (.str "chart", .list [])])],
      .dict [(.str "cli", .str "index.md")]])]])]

/-- The configuration of the documentation pages is found under the reference, and replaced
there alone. -/
theorem docsNav_configuration_replaced :
    Nested docsNav ∧
      findPath (.str "configuration") [] docsNav =
        some [.str "nav", .int 2, .str "reference", .int 0, .str "configuration"] ∧
      ∃ fs w, docsNav = plug fs w ∧
        fs.map Frame.step = [.str "nav", .int 2, .str "reference", .int 0, .str "configuration"] ∧
        replaceUsingPath (.str "models") docsNav
            [.str "nav", .int 2, .str "reference", .int 0, .str "configuration"] =
          .ok (plug fs (.str "models")) ∧
        findPath (.str "configuration") [] (plug fs (.str "models")) =
          some [.str "nav", .int 2, .str "reference", .int 0, .str "configuration"] := by
  have nested : Nested docsNav := nested_of_check (by decide +kernel)
  have found : findPath (.str "configuration") [] docsNav =
      some [.str "nav", .int 2, .str "reference", .int 0, .str "configuration"] := by
    simp [docsNav, Value.dict, findPath, findInEntries, findInItems, Value.equal]
  exact ⟨nested, found,
    (findPath_then_replace nested (.str "configuration") (.str "models")).2.2 _ found⟩

end Dashwright.Reference
