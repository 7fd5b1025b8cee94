import Dashwright.Project.Merge
import Dashwright.Proofs.Value.Texts

/-! What changes when a graph changes.

Adding a piece keeps every piece there was, and replacing the piece at one index keeps every
other; a graph that only does these two things to another keeps all its pieces but one. A
mapping finds a key through the pieces of its keys alone, so while those stay, so does every
lookup in it. Setting an item of a mapping changes the lookup of its key and of no other. -/

namespace Dashwright.Yaml.Graph

section Pieces

variable (g : Graph)

@[simp] theorem size_add (p : Piece) : (g.add p).1.pieces.size = g.pieces.size + 1 := by
  simp [add]

@[simp] theorem index_add (p : Piece) : (g.add p).2 = g.pieces.size := rfl

theorem piece_add_self (p : Piece) : (g.add p).1.piece g.pieces.size = p := by
  simp [add, piece]

theorem piece_add_lt (p : Piece) {i : Nat} (inside : i < g.pieces.size) :
    (g.add p).1.piece i = g.piece i := by
  simp [add, piece, Array.getElem?_push, Nat.ne_of_lt inside]

@[simp] theorem size_update (i : Nat) (p : Piece) : (g.update i p).pieces.size = g.pieces.size := by
  simp [update]

theorem piece_update_self {i : Nat} (inside : i < g.pieces.size) (p : Piece) :
    (g.update i p).piece i = p := by
  simp [update, piece, inside]

theorem piece_update_ne {i j : Nat} (p : Piece) (other : j ≠ i) : (g.update i p).piece j = g.piece j := by
  simp [update, piece, Ne.symm other]

end Pieces

/-- A graph keeps the pieces of another except the one at `x`, and may have more after them. -/
def Keeps (g g' : Graph) (x : Nat) : Prop :=
  g.pieces.size ≤ g'.pieces.size ∧ ∀ i < g.pieces.size, i ≠ x → g'.piece i = g.piece i

theorem Keeps.refl (g : Graph) (x : Nat) : Keeps g g x := ⟨Nat.le_refl _, fun _ _ _ => rfl⟩

theorem Keeps.trans {g₁ g₂ g₃ : Graph} {x : Nat} (first : Keeps g₁ g₂ x) (second : Keeps g₂ g₃ x) :
    Keeps g₁ g₃ x :=
  ⟨Nat.le_trans first.1 second.1, fun i inside other =>
    (second.2 i (Nat.lt_of_lt_of_le inside first.1) other).trans (first.2 i inside other)⟩

theorem keeps_add (g : Graph) (p : Piece) (x : Nat) : Keeps g (g.add p).1 x :=
  ⟨by simp, fun _ inside _ => piece_add_lt g p inside⟩

theorem keeps_update (g : Graph) (x : Nat) (p : Piece) : Keeps g (g.update x p) x :=
  ⟨by simp, fun _ _ other => piece_update_ne g p other⟩

def IsDict (g : Graph) (x : Nat) : Prop := ∃ entries locs, g.piece x = .dict entries locs

/-- A mapping's keys and values are pieces of the graph. -/
def EntriesWithin (g : Graph) (x : Nat) : Prop :=
  ∀ entries locs, g.piece x = .dict entries locs →
    ∀ e ∈ entries, e.1 < g.pieces.size ∧ e.2 < g.pieces.size

theorem lt_of_isDict {g : Graph} {x : Nat} (dict : IsDict g x) : x < g.pieces.size := by
  obtain ⟨entries, locs, found⟩ := dict
  rcases Nat.lt_or_ge x g.pieces.size with inside | outside
  · exact inside
  · rw [piece, Array.getElem?_eq_none outside, Option.getD_none] at found
    cases found

theorem entriesWithin_update {g : Graph} {x : Nat} (inside : x < g.pieces.size) {entries : List (Nat × Nat)}
    (locs : List (String × String)) (bounds : ∀ e ∈ entries, e.1 < g.pieces.size ∧ e.2 < g.pieces.size) :
    EntriesWithin (g.update x (.dict entries locs)) x := by
  intro es ls replaced e member
  rw [piece_update_self g inside] at replaced
  cases replaced
  rw [size_update]
  exact bounds e member

theorem EntriesWithin.keeps {g g' : Graph} {x d : Nat} (within : EntriesWithin g d) (keeps : Keeps g g' x)
    (same : g'.piece d = g.piece d) : EntriesWithin g' d := by
  intro es ls found e member
  rw [same] at found
  have bounds := within es ls found e member
  exact ⟨Nat.lt_of_lt_of_le bounds.1 keeps.1, Nat.lt_of_lt_of_le bounds.2 keeps.1⟩

theorem isText_dict {g : Graph} {x : Nat} (dict : IsDict g x) (key : String) : g.isText x key = false := by
  obtain ⟨entries, locs, found⟩ := dict
  simp only [isText, found]

theorem isText_other {g : Graph} {k : Nat} {key key' : String} (distinct : key ≠ key')
    (hit : g.isText k key = true) : g.isText k key' = false := by
  unfold isText at hit ⊢
  cases found : g.piece k with
  | leaf v _ =>
    rw [found, Value.equal_text_iff] at hit
    rw [hit]
    simp [Value.equal, distinct]
  | _ => rfl

theorem isText_new (g : Graph) (key key' : String) :
    ((g.add (.leaf (.str key) false)).1).isText g.pieces.size key' = (key == key') := by
  simp [isText, piece_add_self, Value.equal]

section Keys

variable {g g' : Graph} {x : Nat}

theorem isText_keeps (keeps : Keeps g g' x) (dict : IsDict g x) (dict' : IsDict g' x) {k : Nat}
    (inside : k < g.pieces.size) (key : String) : g'.isText k key = g.isText k key := by
  by_cases same : k = x
  · rw [same, isText_dict dict, isText_dict dict']
  · simp only [isText, keeps.2 k inside same]

theorem find?_keeps (keeps : Keeps g g' x) (dict : IsDict g x) (dict' : IsDict g' x) (key : String) :
    ∀ {entries : List (Nat × Nat)}, (∀ e ∈ entries, e.1 < g.pieces.size) →
      entries.find? (fun (k, _) => g'.isText k key) = entries.find? (fun (k, _) => g.isText k key)
  | [], _ => rfl
  | e :: rest, inside => by
    have head := isText_keeps keeps dict dict' (inside e List.mem_cons_self) key
    have tail := find?_keeps keeps dict dict' key fun e' member => inside e' (List.mem_cons_of_mem e member)
    simp only [List.find?_cons, head, tail]

theorem any_keeps (keeps : Keeps g g' x) (dict : IsDict g x) (dict' : IsDict g' x) (key : String) :
    ∀ {entries : List (Nat × Nat)}, (∀ e ∈ entries, e.1 < g.pieces.size) →
      entries.any (fun (k, _) => g'.isText k key) = entries.any (fun (k, _) => g.isText k key)
  | [], _ => rfl
  | e :: rest, inside => by
    have head := isText_keeps keeps dict dict' (inside e List.mem_cons_self) key
    have tail := any_keeps keeps dict dict' key fun e' member => inside e' (List.mem_cons_of_mem e member)
    simp only [List.any_cons, head, tail]

theorem containsKey_keeps (keeps : Keeps g g' x) (dict : IsDict g x) (dict' : IsDict g' x) {d : Nat}
    (same : g'.piece d = g.piece d) {entries : List (Nat × Nat)} {locs : List (String × String)}
    (found : g.piece d = .dict entries locs) (inside : ∀ e ∈ entries, e.1 < g.pieces.size)
    (key : String) : g'.containsKey d key = g.containsKey d key := by
  simp only [containsKey, same, found, any_keeps keeps dict dict' key inside]

theorem itemAt_keeps (keeps : Keeps g g' x) (dict : IsDict g x) (dict' : IsDict g' x) {d : Nat}
    (same : g'.piece d = g.piece d) {entries : List (Nat × Nat)} {locs : List (String × String)}
    (found : g.piece d = .dict entries locs) (inside : ∀ e ∈ entries, e.1 < g.pieces.size)
    (key : String) : g'.itemAt d key = g.itemAt d key := by
  simp only [itemAt, same, found, find?_keeps keeps dict dict' key inside]

theorem itemAt_update_dict (dict : IsDict g x) (entries : List (Nat × Nat)) (locs : List (String × String))
    (inside : ∀ e ∈ entries, e.1 < g.pieces.size) (key : String) :
    (g.update x (.dict entries locs)).itemAt x key =
      match entries.find? (fun (k, _) => g.isText k key) with
      | some (_, v) => .ok v
      | Option.none => .error (Failure.missingKey (quoteText key)) := by
  have updated := piece_update_self g (lt_of_isDict dict) (.dict entries locs)
  cases hit : entries.find? (fun (k, _) => g.isText k key) <;>
    simp only [itemAt, updated, find?_keeps (keeps_update g x _) dict ⟨entries, locs, updated⟩ key inside, hit]

end Keys

/-- What setting an item of a mapping leaves: the other pieces kept, a mapping whose entries
stay within the graph, its key read as the item and every other key read as before. -/
def SetsItem (g g' : Graph) (x : Nat) (key : String) (item : Nat) : Prop :=
  Keeps g g' x ∧ IsDict g' x ∧ EntriesWithin g' x ∧ g'.itemAt x key = .ok item ∧
    ∀ key', key' ≠ key → g'.itemAt x key' = g.itemAt x key'

section SetItem

variable {g : Graph} {x item : Nat} {entries : List (Nat × Nat)} {locs : List (String × String)}

theorem find?_setValue (key key' : String) :
    ((fun (k, _) => g.isText k key') ∘ fun ((k, v) : Nat × Nat) =>
        if g.isText k key then (k, item) else (k, v)) = (fun (k, _) => g.isText k key') := by
  funext e
  simp only [Function.comp]
  split <;> rfl

theorem setItem_present (found : g.piece x = .dict entries locs) (within : EntriesWithin g x)
    (item_inside : item < g.pieces.size) (key : String)
    (present : entries.any (fun (k, _) => g.isText k key) = true) :
    SetsItem g (g.update x (.dict (entries.map fun (k, v) =>
      if g.isText k key then (k, item) else (k, v)) locs)) x key item := by
  have dict : IsDict g x := ⟨entries, locs, found⟩
  have inside := lt_of_isDict dict
  have keys (e : Nat × Nat) (member : e ∈ entries.map fun (k, v) =>
      if g.isText k key then (k, item) else (k, v)) : e.1 < g.pieces.size ∧ e.2 < g.pieces.size := by
    obtain ⟨⟨k, v⟩, member0, rfl⟩ := List.mem_map.mp member
    have bounds := within entries locs found (k, v) member0
    dsimp only
    split
    · exact ⟨bounds.1, item_inside⟩
    · exact bounds
  refine ⟨keeps_update g x _, ⟨_, _, piece_update_self g inside _⟩, entriesWithin_update inside locs keys,
    ?_, ?_⟩
  · rw [itemAt_update_dict dict _ locs (fun e member => (keys e member).1), List.find?_map,
      find?_setValue]
    have hit : (entries.find? fun (k, _) => g.isText k key).isSome := by
      rw [List.find?_isSome]
      exact List.any_eq_true.mp present
    obtain ⟨e0, first⟩ := Option.isSome_iff_exists.mp hit
    have matched := List.find?_some first
    rw [first, Option.map_some]
    simp only [matched, if_true]
  · intro key' distinct
    rw [itemAt_update_dict dict _ locs (fun e member => (keys e member).1), List.find?_map,
      find?_setValue]
    simp only [itemAt, found]
    cases first : entries.find? (fun (k, _) => g.isText k key') with
    | none => rfl
    | some e1 =>
      obtain ⟨k, v⟩ := e1
      -- the entry found for another key is not one of this key's
      have hit := List.find?_some first
      dsimp only at hit
      have other := isText_other distinct hit
      simp only [Option.map_some, other]
      rfl

theorem setItem_absent (found : g.piece x = .dict entries locs) (within : EntriesWithin g x)
    (item_inside : item < g.pieces.size) (key : String)
    (absent : entries.any (fun (k, _) => g.isText k key) = false) :
    SetsItem g (((g.add (.leaf (.str key) false)).1).update x
      (.dict (entries ++ [(g.pieces.size, item)]) locs)) x key item := by
  have dict : IsDict g x := ⟨entries, locs, found⟩
  have inside := lt_of_isDict dict
  have added := keeps_add g (.leaf (.str key) false) x
  have dict₁ : IsDict (g.add (.leaf (.str key) false)).1 x :=
    ⟨entries, locs, (piece_add_lt g _ inside).trans found⟩
  have inside₁ : x < ((g.add (.leaf (.str key) false)).1).pieces.size := lt_of_isDict dict₁
  have keys (e : Nat × Nat) (member : e ∈ entries ++ [(g.pieces.size, item)]) :
      e.1 < ((g.add (.leaf (.str key) false)).1).pieces.size ∧
        e.2 < ((g.add (.leaf (.str key) false)).1).pieces.size := by
    rw [size_add]
    rcases List.mem_append.mp member with old | new
    · have bounds := within entries locs found e old
      omega
    · rw [List.mem_singleton.mp new]
      omega
  have keys₁ := fun e member => (keys e member).1
  have old_keys : ∀ e ∈ entries, e.1 < g.pieces.size := fun e member => (within entries locs found e member).1
  -- the entries found for a key are the old entries' and the new one's
  have lookup (key' : String) :
      (entries ++ [(g.pieces.size, item)]).find? (fun (k, _) => ((g.add (.leaf (.str key) false)).1).isText k key') =
        (entries.find? (fun (k, _) => g.isText k key')).or
          (if key == key' then some (g.pieces.size, item) else Option.none) := by
    rw [List.find?_append, find?_keeps added dict dict₁ key' old_keys]
    simp only [List.find?_cons, List.find?_nil, isText_new]
    cases (key == key') <;> simp
  refine ⟨added.trans (keeps_update _ x _), ⟨_, _, piece_update_self _ inside₁ _⟩,
    entriesWithin_update inside₁ locs keys, ?_, ?_⟩
  · rw [itemAt_update_dict dict₁ _ locs keys₁, lookup, List.find?_eq_none.mpr (List.any_eq_false.mp absent)]
    simp
  · intro key' distinct
    rw [itemAt_update_dict dict₁ _ locs keys₁, lookup]
    cases hit : entries.find? (fun (k, _) => g.isText k key') <;>
      simp only [itemAt, found, beq_iff_eq, Ne.symm distinct, if_false, Option.or_none, hit]

/-- Setting an item of a mapping whose entries lie within the graph succeeds, and sets it. -/
theorem setItem_spec (found : g.piece x = .dict entries locs) (within : EntriesWithin g x)
    (item_inside : item < g.pieces.size) (key : String) :
    ∃ g', g.setItem x key item = .ok g' ∧ SetsItem g g' x key item := by
  cases present : entries.any (fun (k, _) => g.isText k key) with
  | true =>
    exact ⟨_, by simp only [setItem, found, present, if_true],
      setItem_present found within item_inside key present⟩
  | false =>
    exact ⟨_, by simp only [setItem, found, present]; rfl,
      setItem_absent found within item_inside key present⟩

end SetItem

end Dashwright.Yaml.Graph
