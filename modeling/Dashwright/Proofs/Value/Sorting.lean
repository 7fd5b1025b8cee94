import Mathlib
import Dashwright.Value.Sort
import Dashwright.Proofs.Loops

/-!
Sorting keeps the items: `sortWith` gives a rearrangement of its input whatever the comparison
answers, and gives one whenever no comparison fails.

Each part of the sort is specified by a triple whose failures are those of the comparison. A
merge is followed through what it keeps: the filled slots, the rest of the copied run and the
rest of the list in place hold together the items the merge started with; every step of a
merge moves one item between them. The stack of runs is followed as a list of runs lying side
by side from the start of the list.
-/

namespace Dashwright.Value

open Std.Do

set_option mvcgen.warning false

section Slots

variable {α : Type}

theorem take_set_of_le {l : List α} {i j : Nat} (h : j ≤ i) (x : α) :
    (l.set i x).take j = l.take j := by
  rw [List.take_set, List.set_eq_of_length_le (by simp; omega)]

theorem drop_set_of_lt {l : List α} {i j : Nat} (h : i < j) (x : α) :
    (l.set i x).drop j = l.drop j := by
  simp [List.drop_set, h]

theorem take_set_succ {l : List α} {i : Nat} (h : i < l.length) (x : α) :
    (l.set i x).take (i + 1) = l.take i ++ [x] := by
  simp [List.set_eq_take_append_cons_drop, h, List.take_append, Nat.min_eq_left (Nat.le_of_lt h)]

theorem drop_set_self {l : List α} {i : Nat} (h : i < l.length) (x : α) :
    (l.set i x).drop i = x :: l.drop (i + 1) := by
  rw [List.set_eq_take_append_cons_drop, if_pos h, List.drop_append_of_le_length (by simp; omega)]
  simp

theorem set_after_stretch (l P : List α) (lo : Nat) (h : lo + P.length < l.length) (v : α) :
    (l.take lo ++ P ++ l.drop (lo + P.length)).set (lo + P.length) v =
      l.take lo ++ (P ++ [v]) ++ l.drop (lo + P.length + 1) := by
  have front : (l.take lo ++ P).length = lo + P.length := by simp; omega
  rw [List.set_append_right _ _ (by omega), front, Nat.sub_self, List.drop_eq_getElem_cons h,
    List.set_cons_zero]
  simp

theorem copy_step (l R : List α) {lo i : Nat} (hi : i < R.length) (fits : lo + R.length ≤ l.length) :
    (l.take lo ++ R.take i ++ l.drop (lo + i)).set (lo + i) R[i] =
      l.take lo ++ R.take (i + 1) ++ l.drop (lo + (i + 1)) := by
  have len : (R.take i).length = i := by simp; omega
  have step := set_after_stretch l (R.take i) lo (by omega) R[i]
  rw [len] at step
  rw [step, List.take_concat_get', Nat.add_assoc]

theorem range_cursor {m n cur : Nat} {pref suff : List Nat}
    (h : [m:n].toList = pref ++ cur :: suff) : cur = m + pref.length ∧ cur < n := by
  simp only [Std.Legacy.Range.toList, List.range'_eq_append_iff] at h
  obtain ⟨k, le, front, back⟩ := h
  rw [eq_comm, List.range'_eq_cons_iff] at back
  subst front
  simp at back ⊢
  omega

theorem size_eq_of_perm {a b : Array α} (h : a.toList.Perm b.toList) : a.size = b.size := by
  simpa using h.length_eq

theorem size_of_perm {a : Array α} {xs : List α} (h : a.toList.Perm xs) : a.size = xs.length := by
  simpa using h.length_eq

theorem toList_set! (a : Array α) (i : Nat) (x : α) : (a.set! i x).toList = a.toList.set i x := by
  simp [Array.set!_eq_setIfInBounds]

variable [Inhabited α]

theorem itemAt_eq {a : Array α} {i : Nat} (h : i < a.size) : itemAt a i = a[i] := by
  simp [itemAt, Array.getD_eq_getD_getElem?, h]

theorem reverseRange_toList (a : Array α) {lo hi : Nat} (le : lo ≤ hi) (fits : hi ≤ a.size) :
    (reverseRange a lo hi).toList =
      a.toList.take lo ++ ((a.toList.drop lo).take (hi - lo)).reverse ++ a.toList.drop hi := by
  generalize stretch : ((a.toList.drop lo).take (hi - lo)).reverse = R
  have len : R.length = hi - lo := by rw [← stretch]; simp; omega
  unfold reverseRange
  apply Id.of_wp_run_eq rfl (fun out : Array α => out.toList = a.toList.take lo ++ R ++ a.toList.drop hi)
  mvcgen invariants
  | inv1 => ⇓⟨cur, out⟩ => ⌜out.toList = a.toList.take lo ++ R.take cur.prefix.length ++
      a.toList.drop (lo + cur.prefix.length)⌝
  case vc1.step pref cur suff h b out inv =>
    obtain ⟨pos, lt⟩ := range_cursor h
    rw [Nat.zero_add] at pos
    subst pos
    have inR : pref.length < R.length := by omega
    have item : itemAt a (hi - 1 - pref.length) = R[pref.length] := by
      subst stretch
      rw [itemAt_eq (by omega)]
      simp only [List.getElem_reverse, List.getElem_take, List.getElem_drop, Array.getElem_toList,
        List.length_take, List.length_drop, Array.length_toList]
      congr 1
      omega
    simp only [out, toList_set!, inv, item, List.length_append, List.length_cons, List.length_nil]
    exact copy_step _ _ inR (by simp; omega)
  case vc2.pre => simp
  case vc3.post.success r inv =>
    rw [inv]
    simp [Std.Legacy.Range.toList, ← len, show lo + R.length = hi by omega]

theorem reverseRange_size (a : Array α) (lo hi : Nat) : (reverseRange a lo hi).size = a.size := by
  unfold reverseRange
  apply Id.of_wp_run_eq rfl (fun out : Array α => out.size = a.size)
  mvcgen invariants
  | inv1 => ⇓⟨_, out⟩ => ⌜out.size = a.size⌝
  case vc1.step pref cur suff h b out same =>
    simp [out, same]

theorem reverseRange_perm (a : Array α) {lo hi : Nat} (le : lo ≤ hi) (fits : hi ≤ a.size) :
    (reverseRange a lo hi).toList.Perm a.toList := by
  rw [reverseRange_toList a le fits]
  have rest : a.toList.drop hi = (a.toList.drop lo).drop (hi - lo) := by
    rw [List.drop_drop, Nat.add_sub_cancel' le]
  conv => rhs; rw [← List.take_append_drop lo a.toList, ← List.take_append_drop (hi - lo) (a.toList.drop lo)]
  rw [rest, List.append_assoc]
  exact List.Perm.append_left _ (List.Perm.append_right _ (List.reverse_perm _))

theorem overwrite_toList (a : Array α) {lo : Nat} (run : Array α) (fits : lo + run.size ≤ a.size) :
    (overwrite a lo run).toList =
      a.toList.take lo ++ run.toList ++ a.toList.drop (lo + run.size) := by
  unfold overwrite
  apply Id.of_wp_run_eq rfl (fun out : Array α =>
    out.toList = a.toList.take lo ++ run.toList ++ a.toList.drop (lo + run.size))
  mvcgen invariants
  | inv1 => ⇓⟨cur, out⟩ => ⌜out.toList = a.toList.take lo ++ run.toList.take cur.prefix.length ++
      a.toList.drop (lo + cur.prefix.length)⌝
  case vc1.step pref cur suff h b out inv =>
    obtain ⟨pos, lt⟩ := range_cursor h
    rw [Nat.zero_add] at pos
    subst pos
    have inRun : pref.length < run.toList.length := by simpa using lt
    have item : itemAt run pref.length = run.toList[pref.length] := by
      rw [itemAt_eq lt, Array.getElem_toList]
    simp only [out, toList_set!, inv, item, List.length_append, List.length_cons, List.length_nil]
    exact copy_step _ _ inRun (by simp; omega)
  case vc2.pre => simp
  case vc3.post.success r inv =>
    rw [inv]
    simp [Std.Legacy.Range.toList]

theorem insert_perm (run : Array α) {l s : Nat} (ls : l ≤ s) (hs : s < run.size) :
    ((run.extract 0 l).push (itemAt run s) ++ run.extract l s ++
      run.extract (s + 1) run.size).toList.Perm run.toList := by
  have inS : s < run.toList.length := by simpa using hs
  have mid : (run.toList.drop l).take (s - l) ++ run.toList.drop s = run.toList.drop l := by
    rw [show run.toList.drop s = (run.toList.drop l).drop (s - l) by
      rw [List.drop_drop, Nat.add_sub_cancel' ls]]
    exact List.take_append_drop _ _
  rw [List.drop_eq_getElem_cons inS] at mid
  have moved : ((run.extract 0 l).push (itemAt run s) ++ run.extract l s ++
      run.extract (s + 1) run.size).toList = run.toList.take l ++ run.toList[s] ::
        ((run.toList.drop l).take (s - l) ++ run.toList.drop (s + 1)) := by
    simp [Array.toList_extract, List.extract_eq_take_drop, itemAt_eq hs]
  rw [moved]
  refine (List.Perm.append_left _ List.perm_middle.symm).trans ?_
  rw [mid, List.take_append_drop]

end Slots

section LowMerges

variable {α : Type} {orig : List α} {tmp : Array α} {c : LowMerge α}

/-- What a merge from the left keeps: the filled slots, the rest of the copy of the first run
and the rest of the list in place hold together the items the merge started with, and the gap
left for the copy is as long as what remains of it. -/
structure LowMerge.Keeps (orig : List α) (tmp : Array α) (c : LowMerge α) : Prop where
  perm : (c.a.toList.take c.dest ++ tmp.toList.drop c.pa ++ c.a.toList.drop c.pb).Perm orig
  gap : c.dest + c.na = c.pb
  copy : c.pa + c.na = tmp.size
  fits : c.pb + c.nb ≤ c.a.size

namespace LowMerge

@[simp] theorem keeps_gallop (g : Nat) :
    ({ c with gallop := g } : LowMerge α).Keeps orig tmp ↔ c.Keeps orig tmp :=
  ⟨fun h => ⟨h.perm, h.gap, h.copy, h.fits⟩, fun h => ⟨h.perm, h.gap, h.copy, h.fits⟩⟩

theorem keeps_start (a : Array α) {baseA na : Nat} (nb g : Nat) (fits : baseA + na + nb ≤ a.size) :
    (⟨a, baseA, 0, baseA + na, na, nb, g⟩ : LowMerge α).Keeps a.toList (a.extract baseA (baseA + na)) := by
  refine ⟨?_, ?_, ?_, ?_⟩
  · simp only [Array.toList_extract, List.extract_eq_take_drop, List.drop_zero, Nat.add_sub_cancel_left]
    rw [← List.drop_drop, List.append_assoc, List.take_append_drop, List.take_append_drop]
  · rfl
  · simp; omega
  · exact fits

theorem Keeps.perm_of_copied (h : c.Keeps orig tmp) (done : c.na = 0) : c.a.toList.Perm orig := by
  obtain ⟨perm, gap, copy, _⟩ := h
  rw [List.drop_of_length_le (by simp; omega), List.append_nil] at perm
  rwa [show c.pb = c.dest by omega, List.take_append_drop] at perm

variable [Inhabited α]

@[simp] theorem fromCopy_na : (c.fromCopy tmp).na = c.na - 1 := rfl
@[simp] theorem fromCopy_nb : (c.fromCopy tmp).nb = c.nb := rfl
@[simp] theorem fromRun_na : c.fromRun.na = c.na := rfl
@[simp] theorem fromRun_nb : c.fromRun.nb = c.nb - 1 := rfl

@[simp] theorem repeat_fromCopy_na (k : Nat) :
    (Nat.repeat (fromCopy tmp) k c).na = c.na - k := by
  induction k with
  | zero => rfl
  | succ k ih => simp only [Nat.repeat, fromCopy_na, ih]; omega

@[simp] theorem repeat_fromCopy_nb (k : Nat) : (Nat.repeat (fromCopy tmp) k c).nb = c.nb := by
  induction k with
  | zero => rfl
  | succ k ih => simp only [Nat.repeat, fromCopy_nb, ih]

@[simp] theorem repeat_fromRun_na (k : Nat) : (Nat.repeat fromRun k c).na = c.na := by
  induction k with
  | zero => rfl
  | succ k ih => simp only [Nat.repeat, fromRun_na, ih]

@[simp] theorem repeat_fromRun_nb (k : Nat) : (Nat.repeat fromRun k c).nb = c.nb - k := by
  induction k with
  | zero => rfl
  | succ k ih => simp only [Nat.repeat, fromRun_nb, ih]; omega

namespace Keeps

theorem fromCopy (h : c.Keeps orig tmp) (pos : 0 < c.na) : (c.fromCopy tmp).Keeps orig tmp := by
  obtain ⟨perm, gap, copy, fits⟩ := h
  have dest : c.dest < c.a.toList.length := by simp; omega
  have pa : c.pa < tmp.toList.length := by simp; omega
  refine ⟨?_, ?_, ?_, ?_⟩
  · simp only [LowMerge.fromCopy, toList_set!, take_set_succ dest, drop_set_of_lt (by omega : c.dest < c.pb),
      itemAt_eq (by simpa using pa)]
    rw [List.drop_eq_getElem_cons pa] at perm
    simpa using perm
  all_goals simp [LowMerge.fromCopy]; omega

theorem fromRun (h : c.Keeps orig tmp) (posA : 0 < c.na) (posB : 0 < c.nb) :
    c.fromRun.Keeps orig tmp := by
  obtain ⟨perm, gap, copy, fits⟩ := h
  have dest : c.dest < c.a.toList.length := by simp; omega
  have pb : c.pb < c.a.toList.length := by simp; omega
  refine ⟨?_, ?_, ?_, ?_⟩
  · simp only [LowMerge.fromRun, toList_set!, take_set_succ dest, drop_set_of_lt (by omega : c.dest < c.pb + 1),
      itemAt_eq (by simpa using pb)]
    rw [List.drop_eq_getElem_cons pb] at perm
    refine List.Perm.trans ?_ perm
    simp only [List.append_assoc, List.singleton_append]
    exact List.Perm.append_left _ List.perm_middle.symm
  all_goals simp [LowMerge.fromRun]; omega

theorem repeat_fromCopy (h : c.Keeps orig tmp) {k : Nat} (hk : k ≤ c.na) :
    (Nat.repeat (LowMerge.fromCopy tmp) k c).Keeps orig tmp := by
  induction k with
  | zero => exact h
  | succ k ih => exact (ih (by omega)).fromCopy (by simp; omega)

theorem repeat_fromRun (h : c.Keeps orig tmp) (posA : 0 < c.na) {k : Nat} (hk : k ≤ c.nb) :
    (Nat.repeat LowMerge.fromRun k c).Keeps orig tmp := by
  induction k with
  | zero => exact h
  | succ k ih => exact (ih (by omega)).fromRun (by simpa using posA) (by simp; omega)

theorem perm_rest (h : c.Keeps orig tmp) : (Nat.repeat (LowMerge.fromCopy tmp) c.na c).a.toList.Perm orig :=
  (h.repeat_fromCopy (Nat.le_refl _)).perm_of_copied (by simp)

theorem perm_lastOfCopy (h : c.Keeps orig tmp) (one : c.na = 1) :
    ((Nat.repeat LowMerge.fromRun c.nb c).fromCopy tmp).a.toList.Perm orig :=
  ((h.repeat_fromRun (by omega) (Nat.le_refl _)).fromCopy (by simp; omega)).perm_of_copied (by simp; omega)

end Keeps

end LowMerge

end LowMerges

section HighMerges

variable {α : Type} {orig : List α} {tmp : Array α} {baseA : Nat} {c : HighMerge α}

/-- What a merge from the right keeps: the rest of the first run in place, the rest of the copy
of the second run and the filled slots hold together the items the merge started with; the
next items to take are the last remaining ones, and the next slot to fill is the last one
before the filled slots. -/
structure HighMerge.Keeps (orig : List α) (tmp : Array α) (baseA : Nat) (c : HighMerge α) :
    Prop where
  perm : (c.a.toList.take (baseA + c.na) ++ tmp.toList.take c.nb ++
    c.a.toList.drop (baseA + c.na + c.nb)).Perm orig
  pa : 0 < c.na → c.pa + 1 = baseA + c.na
  pb : 0 < c.nb → c.pb + 1 = c.nb
  dest : 0 < c.na + c.nb → c.dest + 1 = baseA + c.na + c.nb
  copy : c.nb ≤ tmp.size
  fits : baseA + c.na + c.nb ≤ c.a.size

namespace HighMerge

@[simp] theorem keeps_gallop (g : Nat) :
    ({ c with gallop := g } : HighMerge α).Keeps orig tmp baseA ↔ c.Keeps orig tmp baseA :=
  ⟨fun h => ⟨h.perm, h.pa, h.pb, h.dest, h.copy, h.fits⟩,
   fun h => ⟨h.perm, h.pa, h.pb, h.dest, h.copy, h.fits⟩⟩

theorem keeps_start (a : Array α) {na nb : Nat} (g : Nat) (fits : baseA + na + nb ≤ a.size) :
    (⟨a, baseA + na + nb - 1, baseA + na - 1, nb - 1, na, nb, g⟩ : HighMerge α).Keeps a.toList
      (a.extract (baseA + na) (baseA + na + nb)) baseA := by
  refine ⟨?_, ?_, ?_, ?_, ?_, ?_⟩
  · have rest : a.toList.drop (baseA + na + nb) = (a.toList.drop (baseA + na)).drop nb := by
      rw [List.drop_drop]
    simp only [Array.toList_extract, List.extract_eq_take_drop, Nat.add_sub_cancel_left,
      List.take_take, Nat.min_self]
    rw [rest, List.append_assoc, List.take_append_drop, List.take_append_drop]
  all_goals simp; omega

theorem Keeps.perm_of_copied (h : c.Keeps orig tmp baseA) (done : c.nb = 0) :
    c.a.toList.Perm orig := by
  have perm := h.perm
  rwa [done, List.take_zero, List.append_nil, Nat.add_zero, List.take_append_drop] at perm

variable [Inhabited α]

@[simp] theorem fromRun_na : c.fromRun.na = c.na - 1 := rfl
@[simp] theorem fromRun_nb : c.fromRun.nb = c.nb := rfl
@[simp] theorem fromCopy_na : (c.fromCopy tmp).na = c.na := rfl
@[simp] theorem fromCopy_nb : (c.fromCopy tmp).nb = c.nb - 1 := rfl

@[simp] theorem repeat_fromRun_na (k : Nat) : (Nat.repeat fromRun k c).na = c.na - k := by
  induction k with
  | zero => rfl
  | succ k ih => simp only [Nat.repeat, fromRun_na, ih]; omega

@[simp] theorem repeat_fromRun_nb (k : Nat) : (Nat.repeat fromRun k c).nb = c.nb := by
  induction k with
  | zero => rfl
  | succ k ih => simp only [Nat.repeat, fromRun_nb, ih]

@[simp] theorem repeat_fromCopy_na (k : Nat) : (Nat.repeat (fromCopy tmp) k c).na = c.na := by
  induction k with
  | zero => rfl
  | succ k ih => simp only [Nat.repeat, fromCopy_na, ih]

@[simp] theorem repeat_fromCopy_nb (k : Nat) :
    (Nat.repeat (fromCopy tmp) k c).nb = c.nb - k := by
  induction k with
  | zero => rfl
  | succ k ih => simp only [Nat.repeat, fromCopy_nb, ih]; omega

namespace Keeps

theorem fromRun (h : c.Keeps orig tmp baseA) (pos : 0 < c.na) : c.fromRun.Keeps orig tmp baseA := by
  obtain ⟨perm, pa, pb, dest, copy, fits⟩ := h
  have pa := pa pos
  have dest := dest (by omega)
  have inDest : c.dest < c.a.toList.length := by simp; omega
  have inPa : c.pa < c.a.toList.length := by simp; omega
  refine ⟨?_, ?_, ?_, ?_, ?_, ?_⟩
  · simp only [HighMerge.fromRun, toList_set!, itemAt_eq (by simpa using inPa)]
    rw [show baseA + (c.na - 1) = c.pa by omega, take_set_of_le (by omega),
      show c.pa + c.nb = c.dest by omega, drop_set_self inDest]
    rw [show baseA + c.na = c.pa + 1 by omega, show c.pa + 1 + c.nb = c.dest + 1 by omega,
      ← List.take_concat_get' _ _ inPa] at perm
    refine List.Perm.trans ?_ perm
    simp only [List.append_assoc, List.singleton_append, Array.getElem_toList]
    exact List.Perm.append_left _ List.perm_middle
  all_goals simp [HighMerge.fromRun]; omega

theorem fromCopy (h : c.Keeps orig tmp baseA) (pos : 0 < c.nb) :
    (c.fromCopy tmp).Keeps orig tmp baseA := by
  obtain ⟨perm, pa, pb, dest, copy, fits⟩ := h
  have pb := pb pos
  have dest := dest (by omega)
  have inDest : c.dest < c.a.toList.length := by simp; omega
  have inPb : c.pb < tmp.toList.length := by simp; omega
  refine ⟨?_, ?_, ?_, ?_, ?_, ?_⟩
  · simp only [HighMerge.fromCopy, toList_set!, itemAt_eq (by simpa using inPb)]
    rw [take_set_of_le (by omega), show baseA + c.na + (c.nb - 1) = c.dest by omega,
      drop_set_self inDest, show c.nb - 1 = c.pb by omega]
    rw [show c.nb = c.pb + 1 by omega, show baseA + c.na + (c.pb + 1) = c.dest + 1 by omega,
      ← List.take_concat_get' _ _ inPb] at perm
    simpa using perm
  all_goals simp [HighMerge.fromCopy]; omega

theorem repeat_fromRun (h : c.Keeps orig tmp baseA) {k : Nat} (hk : k ≤ c.na) :
    (Nat.repeat HighMerge.fromRun k c).Keeps orig tmp baseA := by
  induction k with
  | zero => exact h
  | succ k ih => exact (ih (by omega)).fromRun (by simp; omega)

theorem repeat_fromCopy (h : c.Keeps orig tmp baseA) {k : Nat} (hk : k ≤ c.nb) :
    (Nat.repeat (HighMerge.fromCopy tmp) k c).Keeps orig tmp baseA := by
  induction k with
  | zero => exact h
  | succ k ih => exact (ih (by omega)).fromCopy (by simp; omega)

theorem perm_rest (h : c.Keeps orig tmp baseA) :
    (Nat.repeat (HighMerge.fromCopy tmp) c.nb c).a.toList.Perm orig :=
  (h.repeat_fromCopy (Nat.le_refl _)).perm_of_copied (by simp)

theorem perm_lastOfCopy (h : c.Keeps orig tmp baseA) (one : c.nb = 1) :
    ((Nat.repeat HighMerge.fromRun c.na c).fromCopy tmp).a.toList.Perm orig :=
  ((h.repeat_fromRun (Nat.le_refl _)).fromCopy (by simp; omega)).perm_of_copied (by simp; omega)

end Keeps

end HighMerge

end HighMerges

section Stack

/-- Runs that lie side by side from `start` on. -/
def Tiles : Nat → List SortRun → Prop
  | _, [] => True
  | start, r :: rs => r.base = start ∧ Tiles (start + r.len) rs

def covered (runs : List SortRun) : Nat := (runs.map SortRun.len).sum

@[simp] theorem covered_nil : covered [] = 0 := rfl

@[simp] theorem covered_cons (r : SortRun) (rs : List SortRun) :
    covered (r :: rs) = r.len + covered rs := by
  simp [covered]

@[simp] theorem covered_append (l₁ l₂ : List SortRun) :
    covered (l₁ ++ l₂) = covered l₁ + covered l₂ := by
  simp [covered]

variable {s : Nat} {pre rest : List SortRun} {ra rb : SortRun}

theorem tiles_append {l₁ l₂ : List SortRun} :
    Tiles s (l₁ ++ l₂) ↔ Tiles s l₁ ∧ Tiles (s + covered l₁) l₂ := by
  induction l₁ generalizing s with
  | nil => simp [Tiles]
  | cons r rs ih => simp [Tiles, ih, and_assoc, Nat.add_assoc]

theorem Tiles.pair (h : Tiles s (pre ++ ra :: rb :: rest)) :
    ra.base + ra.len = rb.base ∧ rb.base + rb.len ≤ s + covered (pre ++ ra :: rb :: rest) := by
  obtain ⟨-, hra, hrb, -⟩ := tiles_append.1 h
  simp
  omega

theorem Tiles.merge (h : Tiles s (pre ++ ra :: rb :: rest)) :
    Tiles s (pre ++ { ra with len := ra.len + rb.len } :: rest) := by
  obtain ⟨hpre, hra, hrb, hrest⟩ := tiles_append.1 h
  exact tiles_append.2 ⟨hpre, hra, by rwa [← Nat.add_assoc]⟩

theorem covered_merge (pre : List SortRun) (ra rb : SortRun) (rest : List SortRun) :
    covered (pre ++ { ra with len := ra.len + rb.len } :: rest) = covered (pre ++ ra :: rb :: rest) := by
  simp
  omega

theorem Tiles.push {l : List SortRun} (h : Tiles s l) {base : Nat} (ends : s + covered l = base)
    (len power : Nat) : Tiles s (l ++ [⟨base, len, power⟩]) :=
  tiles_append.2 ⟨h, ends.symm, trivial⟩

theorem split_pair (runs : Array SortRun) {i : Nat} (h : i + 1 < runs.size) :
    runs.toList = runs.toList.take i ++
      runs.getD i default :: runs.getD (i + 1) default :: runs.toList.drop (i + 2) := by
  have first : i < runs.toList.length := by simp; omega
  have second : i + 1 < runs.toList.length := by simp; omega
  conv => lhs; rw [← List.take_append_drop i runs.toList]
  rw [List.drop_eq_getElem_cons first, List.drop_eq_getElem_cons second]
  simp [Array.getD_eq_getD_getElem?, Array.getElem?_eq_getElem h,
    Array.getElem?_eq_getElem (Nat.lt_of_succ_lt h)]

theorem tiles_adjacent {runs : Array SortRun} {i : Nat} (h : Tiles s runs.toList)
    (lt : i + 1 < runs.size) :
    (runs.getD i default).base + (runs.getD i default).len = (runs.getD (i + 1) default).base ∧
      (runs.getD (i + 1) default).base + (runs.getD (i + 1) default).len ≤
        s + covered runs.toList := by
  rw [split_pair runs lt] at h ⊢
  exact h.pair

theorem tiles_merge_top {runs : Array SortRun} {i : Nat} (h : Tiles s runs.toList)
    (top : i + 2 = runs.size) :
    let merged := (runs.set! i { runs.getD i default with
      len := (runs.getD i default).len + (runs.getD (i + 1) default).len }).pop
    Tiles s merged.toList ∧ covered merged.toList = covered runs.toList := by
  have split := split_pair runs (i := i) (by omega)
  have none : runs.toList.drop (i + 2) = [] := by simp; omega
  have len : (runs.toList.take i).length = i := by simp; omega
  rw [none] at split
  rw [split] at h
  simp only [Array.toList_pop, toList_set!]
  rw [split]
  generalize runs.toList.take i = P at h len
  subst len
  constructor
  · simpa using h.merge
  · simp

theorem tiles_merge_below {runs : Array SortRun} {i : Nat} (h : Tiles s runs.toList)
    (below : i + 3 = runs.size) :
    let once := runs.set! i { runs.getD i default with
      len := (runs.getD i default).len + (runs.getD (i + 1) default).len }
    let merged := (once.set! (i + 1) (once.getD (i + 2) default)).pop
    Tiles s merged.toList ∧ covered merged.toList = covered runs.toList := by
  have split := split_pair runs (i := i) (by omega)
  have third : runs.toList.drop (i + 2) = [runs.getD (i + 2) default] := by
    have inThird : i + 2 < runs.toList.length := by simp; omega
    rw [List.drop_eq_getElem_cons inThird, List.drop_of_length_le (by simp; omega)]
    simp [Array.getD_eq_getD_getElem?, Array.getElem?_eq_getElem (by omega : i + 2 < runs.size)]
  have len : (runs.toList.take i).length = i := by simp; omega
  have kept : ∀ x, (runs.set! i x).getD (i + 2) default = runs.getD (i + 2) default := by
    intro x
    simp [Array.getD_eq_getD_getElem?, Array.set!_eq_setIfInBounds]
  rw [third] at split
  rw [split] at h
  simp only [kept, Array.toList_pop, toList_set!]
  rw [split]
  generalize runs.toList.take i = P at h len
  subst len
  constructor
  · simpa using h.merge
  · simpa using covered_merge P (runs.getD P.length default) (runs.getD (P.length + 1) default)
      [runs.getD (P.length + 2) default]

theorem tiles_set_power {runs : Array SortRun} (h : Tiles s runs.toList) (power : Nat) :
    let stack := runs.set! (runs.size - 1) { runs.getD (runs.size - 1) default with power := power }
    Tiles s stack.toList ∧ covered stack.toList = covered runs.toList := by
  simp only [toList_set!]
  rcases Nat.eq_zero_or_pos runs.size with empty | pos
  · rw [List.set_eq_of_length_le (by simp; omega)]
    exact ⟨h, rfl⟩
  · have last : runs.toList.drop (runs.size - 1) = [runs.getD (runs.size - 1) default] := by
      rw [List.drop_eq_getElem_cons (by simp; omega), List.drop_of_length_le (by simp; omega)]
      simp [Array.getD_eq_getD_getElem?, Array.getElem?_eq_getElem (by omega : runs.size - 1 < runs.size)]
    have len : (runs.toList.take (runs.size - 1)).length = runs.size - 1 := by simp
    have split := (List.take_append_drop (runs.size - 1) runs.toList).symm
    rw [last] at split
    rw [split] at h ⊢
    generalize runs.toList.take (runs.size - 1) = P at h len
    rw [List.set_append_right _ _ (by omega), len, Nat.sub_self, List.set_cons_zero]
    obtain ⟨front, last⟩ := tiles_append.1 h
    exact ⟨tiles_append.2 ⟨front, last⟩, by simp⟩

end Stack

/-! How a merge ends and the states of a merge are types with values; `grind` asks for one when
it splits a merge's results, and a search that fails takes long. -/

instance nonemptyMergeEnd : Nonempty MergeEnd := ⟨.rest⟩

instance nonemptyLowMerge {α : Type} : Nonempty (LowMerge α) := ⟨⟨#[], 0, 0, 0, 0, 0, 0⟩⟩

instance nonemptyHighMerge {α : Type} : Nonempty (HighMerge α) := ⟨⟨#[], 0, 0, 0, 0, 0, 0⟩⟩

section Steps

variable {α : Type} [Inhabited α] {E : Prop} {lt : α → α → Outcome Bool}
  (hlt : ∀ x y, ⦃⌜True⌝⦄ lt x y ⦃post⟨fun _ => ⌜True⌝, fun _ => ⌜E⌝⟩⦄)
include hlt

theorem gallopLeft_le (key : α) (a : Array α) (base n hint : Nat) :
    ⦃⌜hint ≤ n⌝⦄ gallopLeft lt key a base n hint ⦃post⟨fun r => ⌜r ≤ n⌝, fun _ => ⌜E⌝⟩⦄ := by
  unfold gallopLeft
  mvcgen [hlt] invariants
  | inv1 => post⟨fun _ => ⌜True⌝, fun _ => ⌜E⌝⟩
  | inv2 => post⟨fun ⟨_, s⟩ => ⌜s.2 ≤ n⌝, fun _ => ⌜E⌝⟩
  | inv3 => post⟨fun ⟨_, s⟩ => ⌜s.2 ≤ n⌝, fun _ => ⌜E⌝⟩
  | inv4 => post⟨fun _ => ⌜True⌝, fun _ => ⌜E⌝⟩
  | inv5 => post⟨fun ⟨_, s⟩ => ⌜s.2 ≤ n⌝, fun _ => ⌜E⌝⟩
  | inv6 => post⟨fun ⟨_, s⟩ => ⌜s.2 ≤ n⌝, fun _ => ⌜E⌝⟩
  all_goals (try simp_all) <;> omega

theorem gallopRight_le (key : α) (a : Array α) (base n hint : Nat) :
    ⦃⌜hint ≤ n⌝⦄ gallopRight lt key a base n hint ⦃post⟨fun r => ⌜r ≤ n⌝, fun _ => ⌜E⌝⟩⦄ := by
  unfold gallopRight
  mvcgen [hlt] invariants
  | inv1 => post⟨fun _ => ⌜True⌝, fun _ => ⌜E⌝⟩
  | inv2 => post⟨fun ⟨_, s⟩ => ⌜s.2 ≤ n⌝, fun _ => ⌜E⌝⟩
  | inv3 => post⟨fun ⟨_, s⟩ => ⌜s.2 ≤ n⌝, fun _ => ⌜E⌝⟩
  | inv4 => post⟨fun _ => ⌜True⌝, fun _ => ⌜E⌝⟩
  | inv5 => post⟨fun ⟨_, s⟩ => ⌜s.2 ≤ n⌝, fun _ => ⌜E⌝⟩
  | inv6 => post⟨fun ⟨_, s⟩ => ⌜s.2 ≤ n⌝, fun _ => ⌜E⌝⟩
  all_goals (try simp_all) <;> omega

theorem countRun_le (a : Array α) (lo hi : Nat) :
    ⦃⌜lo < hi⌝⦄ countRun lt a lo hi ⦃post⟨fun r => ⌜r.1 ≤ hi - lo⌝, fun _ => ⌜E⌝⟩⦄ := by
  unfold countRun
  mvcgen -trivial [hlt] invariants
  | inv1 => post⟨fun ⟨cur, n⟩ =>
      ⌜n ≤ 2 + cur.prefix.length ∧ cur.prefix.length + cur.suffix.length = hi - (lo + 2)⌝,
      fun _ => ⌜E⌝⟩
  all_goals simp_all [Std.Legacy.Range.toList]
  all_goals omega

theorem insertionPoint_le (run : Array α) (pivot : α) (s : Nat) :
    ⦃⌜True⌝⦄ insertionPoint lt run pivot s ⦃post⟨fun l => ⌜l ≤ s⌝, fun _ => ⌜E⌝⟩⦄ := by
  unfold insertionPoint
  mvcgen -trivial [hlt] invariants
  | inv1 => post⟨fun ⟨_, st⟩ => ⌜st.1 ≤ st.2 ∧ st.2 ≤ s⌝, fun _ => ⌜E⌝⟩
  all_goals grind +zetaDelta

theorem binaryInsertion_perm (a : Array α) (lo hi start : Nat) :
    ⦃⌜lo ≤ hi ∧ hi ≤ a.size⌝⦄ binaryInsertion lt a lo hi start
    ⦃post⟨fun r => ⌜r.toList.Perm a.toList⌝, fun _ => ⌜E⌝⟩⦄ := by
  have point := insertionPoint_le hlt
  unfold binaryInsertion
  mvcgen [point] invariants
  | inv1 => post⟨fun ⟨_, run⟩ => ⌜run.toList.Perm (a.extract lo hi).toList⌝, fun _ => ⌜E⌝⟩
  case vc1.step.success run first bounds pref cur suff h b pivot perm l le =>
    obtain ⟨-, lt⟩ := range_cursor h
    have size : b.size = run.size := perm.length_eq
    exact (insert_perm b le (by omega)).trans perm
  case vc2.step.except.handle => exact id
  case vc4.post.success run first bounds r perm =>
    have len : r.size = hi - lo := by
      have := perm.length_eq
      simp at this
      omega
    have whole : a.toList = a.toList.take lo ++ (a.extract lo hi).toList ++ a.toList.drop hi := by
      have rest : a.toList.drop hi = (a.toList.drop lo).drop (hi - lo) := by
        rw [List.drop_drop, Nat.add_sub_cancel' bounds.1]
      rw [Array.toList_extract, List.extract_eq_take_drop, rest, List.append_assoc,
        List.take_append_drop, List.take_append_drop]
    rw [overwrite_toList a r (by omega), len, Nat.add_sub_cancel' bounds.1]
    conv => rhs; rw [whole]
    exact (perm.append_left _).append_right _

theorem lowMergeSteps_keeps (orig : List α) (tmp : Array α) (c0 : LowMerge α) (fuel : Nat) :
    ⦃⌜c0.Keeps orig tmp ∧ 2 ≤ c0.na ∧ 1 ≤ c0.nb⌝⦄ lowMergeSteps lt tmp c0 fuel
    ⦃post⟨fun r => ⌜r.1.Keeps orig tmp ∧ (r.2 = .lastOfCopy → r.1.na = 1)⌝, fun _ => ⌜E⌝⟩⦄ := by
  have hR := gallopRight_le hlt
  have hL := gallopLeft_le hlt
  unfold lowMergeSteps
  mvcgen -trivial [hlt, hR, hL] invariants
  | inv1 => Invariant.withEarlyReturnNewDo
      (fun _ c => ⌜c.Keeps orig tmp ∧ 2 ≤ c.na ∧ 1 ≤ c.nb⌝)
      (fun r _ => ⌜r.1.Keeps orig tmp ∧ (r.2 = .lastOfCopy → r.1.na = 1)⌝)
      ⟨fun _ => ⌜E⌝, ()⟩
  | inv2 => Invariant.withEarlyReturnNewDo
      (fun _ s => ⌜s.1.Keeps orig tmp ∧ 2 ≤ s.1.na ∧ 1 ≤ s.1.nb⌝)
      (fun r _ => ⌜r.1.Keeps orig tmp ∧ (r.2 = .lastOfCopy → r.1.na = 1)⌝)
      ⟨fun _ => ⌜E⌝, ()⟩
  | inv3 => Invariant.withEarlyReturnNewDo
      (fun _ s => ⌜s.1.Keeps orig tmp ∧ 2 ≤ s.1.na ∧ 1 ≤ s.1.nb⌝)
      (fun r _ => ⌜r.1.Keeps orig tmp ∧ (r.2 = .lastOfCopy → r.1.na = 1)⌝)
      ⟨fun _ => ⌜E⌝, ()⟩
  all_goals
    grind +zetaDelta [LowMerge.Keeps.fromRun, LowMerge.Keeps.fromCopy, LowMerge.Keeps.repeat_fromCopy,
      LowMerge.Keeps.repeat_fromRun, LowMerge.fromRun_na, LowMerge.fromRun_nb, LowMerge.fromCopy_na,
      LowMerge.fromCopy_nb, LowMerge.repeat_fromCopy_na, LowMerge.repeat_fromCopy_nb,
      LowMerge.repeat_fromRun_na, LowMerge.repeat_fromRun_nb, LowMerge.keeps_gallop]

theorem mergeLow_perm (a : Array α) (baseA na nb g : Nat) :
    ⦃⌜baseA + na + nb ≤ a.size ∧ 0 < na ∧ 0 < nb⌝⦄ mergeLow lt a baseA na nb g
    ⦃post⟨fun r => ⌜r.1.toList.Perm a.toList⌝, fun _ => ⌜E⌝⟩⦄ := by
  have steps := lowMergeSteps_keeps hlt a.toList (a.extract baseA (baseA + na))
  have start (fits : baseA + na + nb ≤ a.size) (pa : 0 < na) (pb : 0 < nb) :=
    (LowMerge.keeps_start a nb g fits).fromRun pa pb
  unfold mergeLow
  mvcgen -trivial [steps]
  all_goals
    grind +zetaDelta [LowMerge.Keeps.perm_rest, LowMerge.Keeps.perm_lastOfCopy, LowMerge.fromRun_na,
      LowMerge.fromRun_nb]

theorem highMergeSteps_keeps (orig : List α) (tmp : Array α) (baseA : Nat) (c0 : HighMerge α)
    (fuel : Nat) :
    ⦃⌜c0.Keeps orig tmp baseA ∧ 1 ≤ c0.na ∧ 2 ≤ c0.nb⌝⦄ highMergeSteps lt tmp baseA c0 fuel
    ⦃post⟨fun r => ⌜r.1.Keeps orig tmp baseA ∧ (r.2 = .lastOfCopy → r.1.nb = 1)⌝, fun _ => ⌜E⌝⟩⦄ := by
  have hR := gallopRight_le hlt
  have hL := gallopLeft_le hlt
  unfold highMergeSteps
  mvcgen -trivial [hlt, hR, hL] invariants
  | inv1 => Invariant.withEarlyReturnNewDo
      (fun _ c => ⌜c.Keeps orig tmp baseA ∧ 1 ≤ c.na ∧ 2 ≤ c.nb⌝)
      (fun r _ => ⌜r.1.Keeps orig tmp baseA ∧ (r.2 = .lastOfCopy → r.1.nb = 1)⌝)
      ⟨fun _ => ⌜E⌝, ()⟩
  | inv2 => Invariant.withEarlyReturnNewDo
      (fun _ s => ⌜s.1.Keeps orig tmp baseA ∧ 1 ≤ s.1.na ∧ 2 ≤ s.1.nb⌝)
      (fun r _ => ⌜r.1.Keeps orig tmp baseA ∧ (r.2 = .lastOfCopy → r.1.nb = 1)⌝)
      ⟨fun _ => ⌜E⌝, ()⟩
  | inv3 => Invariant.withEarlyReturnNewDo
      (fun _ s => ⌜s.1.Keeps orig tmp baseA ∧ 1 ≤ s.1.na ∧ 2 ≤ s.1.nb⌝)
      (fun r _ => ⌜r.1.Keeps orig tmp baseA ∧ (r.2 = .lastOfCopy → r.1.nb = 1)⌝)
      ⟨fun _ => ⌜E⌝, ()⟩
  all_goals
    grind +zetaDelta [HighMerge.Keeps.fromRun, HighMerge.Keeps.fromCopy, HighMerge.Keeps.repeat_fromCopy,
      HighMerge.Keeps.repeat_fromRun, HighMerge.fromRun_na, HighMerge.fromRun_nb, HighMerge.fromCopy_na,
      HighMerge.fromCopy_nb, HighMerge.repeat_fromCopy_na, HighMerge.repeat_fromCopy_nb,
      HighMerge.repeat_fromRun_na, HighMerge.repeat_fromRun_nb, HighMerge.keeps_gallop]

theorem mergeHigh_perm (a : Array α) (baseA na nb g : Nat) :
    ⦃⌜baseA + na + nb ≤ a.size ∧ 0 < na ∧ 0 < nb⌝⦄ mergeHigh lt a baseA na nb g
    ⦃post⟨fun r => ⌜r.1.toList.Perm a.toList⌝, fun _ => ⌜E⌝⟩⦄ := by
  have steps := highMergeSteps_keeps hlt a.toList (a.extract (baseA + na) (baseA + na + nb)) baseA
  have start (fits : baseA + na + nb ≤ a.size) (pa : 0 < na) :=
    (HighMerge.keeps_start a g fits).fromRun pa
  unfold mergeHigh
  mvcgen -trivial [steps]
  all_goals
    grind +zetaDelta [HighMerge.Keeps.perm_rest, HighMerge.Keeps.perm_lastOfCopy, HighMerge.fromRun_na,
      HighMerge.fromRun_nb]

theorem mergeAt_perm (a : Array α) (runs : Array SortRun) (i g : Nat) :
    ⦃⌜Tiles 0 runs.toList ∧ covered runs.toList ≤ a.size ∧
      (i + 2 = runs.size ∨ i + 3 = runs.size)⌝⦄
    mergeAt lt a runs i g
    ⦃post⟨fun r => ⌜r.1.toList.Perm a.toList ∧ Tiles 0 r.2.1.toList ∧
      covered r.2.1.toList = covered runs.toList⌝, fun _ => ⌜E⌝⟩⦄ := by
  have hR := gallopRight_le hlt
  have hL := gallopLeft_le hlt
  have low := mergeLow_perm hlt
  have high := mergeHigh_perm hlt
  unfold mergeAt
  mvcgen -trivial [hR, hL, low, high]
  all_goals
    obtain ⟨tiles, fits, pair⟩ := ‹Tiles 0 runs.toList ∧ covered runs.toList ≤ a.size ∧
      (i + 2 = runs.size ∨ i + 3 = runs.size)›
    have adjacent := tiles_adjacent tiles (i := i) (by omega)
    grind +zetaDelta [tiles_merge_top, tiles_merge_below, List.Perm.refl, Array.size_setIfInBounds]

theorem mergeCollapse_perm (a : Array α) (runs : Array SortRun) (power g : Nat) :
    ⦃⌜Tiles 0 runs.toList ∧ covered runs.toList ≤ a.size⌝⦄ mergeCollapse lt a runs power g
    ⦃post⟨fun r => ⌜r.1.toList.Perm a.toList ∧ Tiles 0 r.2.1.toList ∧
      covered r.2.1.toList = covered runs.toList⌝, fun _ => ⌜E⌝⟩⦄ := by
  have merge := mergeAt_perm hlt
  unfold mergeCollapse
  mvcgen -trivial [merge] invariants
  | inv1 => post⟨fun ⟨_, st⟩ => ⌜st.1.toList.Perm a.toList ∧ Tiles 0 st.2.1.toList ∧
      covered st.2.1.toList = covered runs.toList⌝, fun _ => ⌜E⌝⟩
  all_goals grind +zetaDelta [size_eq_of_perm, List.Perm.refl, List.Perm.trans]

theorem mergeForceCollapse_perm (a : Array α) (runs : Array SortRun) (g : Nat) :
    ⦃⌜Tiles 0 runs.toList ∧ covered runs.toList ≤ a.size⌝⦄ mergeForceCollapse lt a runs g
    ⦃post⟨fun r => ⌜r.toList.Perm a.toList⌝, fun _ => ⌜E⌝⟩⦄ := by
  have merge := mergeAt_perm hlt
  unfold mergeForceCollapse
  mvcgen -trivial [merge] invariants
  | inv1 => post⟨fun ⟨_, st⟩ => ⌜st.1.toList.Perm a.toList ∧ Tiles 0 st.2.1.toList ∧
      covered st.2.1.toList = covered runs.toList⌝, fun _ => ⌜E⌝⟩
  all_goals grind +zetaDelta [size_eq_of_perm, List.Perm.refl, List.Perm.trans]

theorem nextRun_perm (a : Array α) (lo n minrun : Nat) :
    ⦃⌜lo < n ∧ n ≤ a.size⌝⦄ nextRun lt a lo n minrun
    ⦃post⟨fun r => ⌜r.1.toList.Perm a.toList ∧ r.2 ≤ n - lo⌝, fun _ => ⌜E⌝⟩⦄ := by
  have run := countRun_le hlt
  have insertion := binaryInsertion_perm hlt
  unfold nextRun
  mvcgen -trivial [run, insertion]
  all_goals
    grind +zetaDelta [reverseRange_perm, reverseRange_size, size_eq_of_perm, List.Perm.refl,
      List.Perm.trans]

theorem pushRun_perm (a : Array α) (runs : Array SortRun) (lo len n g : Nat) :
    ⦃⌜Tiles 0 runs.toList ∧ covered runs.toList = lo ∧ lo + len ≤ a.size⌝⦄
    pushRun lt a runs lo len n g
    ⦃post⟨fun r => ⌜r.1.toList.Perm a.toList ∧ Tiles 0 r.2.1.toList ∧
      covered r.2.1.toList = lo + len⌝, fun _ => ⌜E⌝⟩⦄ := by
  have collapse := mergeCollapse_perm hlt
  unfold pushRun
  mvcgen -trivial [collapse]
  all_goals
    grind +zetaDelta [tiles_set_power, Tiles.push, List.Perm.refl, Array.toList_push, covered_append,
      covered_cons, covered_nil]

/-- Sorting only moves items. -/
theorem sortWith_spec (xs : List α) :
    ⦃⌜True⌝⦄ sortWith lt xs ⦃post⟨fun ys => ⌜ys.Perm xs⌝, fun _ => ⌜E⌝⟩⦄ := by
  have next := nextRun_perm hlt
  have push := pushRun_perm hlt
  have force := mergeForceCollapse_perm hlt
  unfold sortWith
  mvcgen -trivial [next, push, force] invariants
  | inv1 => post⟨fun ⟨_, st⟩ => ⌜st.1.toList.Perm xs ∧ Tiles 0 st.2.2.1.toList ∧
      covered st.2.2.1.toList = st.2.1 ∧ st.2.1 ≤ xs.length⌝, fun _ => ⌜E⌝⟩
  case vc7.isFalse.pre => simp [Tiles]
  all_goals grind +zetaDelta [size_of_perm, size_eq_of_perm, List.Perm.trans]

end Steps

section Results

theorem triple_of_failures {β : Type} {E : Prop} (x : Outcome β) (h : ∀ e, x = .error e → E) :
    ⦃⌜True⌝⦄ x ⦃post⟨fun _ => ⌜True⌝, fun _ => ⌜E⌝⟩⦄ := by
  cases x with
  | error e =>
    have fails := h e rfl
    show ⦃⌜True⌝⦄ (MonadExceptOf.throw e : Outcome β) ⦃post⟨fun _ => ⌜True⌝, fun _ => ⌜E⌝⟩⦄
    simp [Triple.iff, fails]
  | ok b =>
    show ⦃⌜True⌝⦄ (pure b : Outcome β) ⦃post⟨fun _ => ⌜True⌝, fun _ => ⌜E⌝⟩⦄
    mvcgen

theorem ok_of_triple {β : Type} {x : Outcome β} {P : β → Prop} {E : Prop}
    (h : ⦃⌜True⌝⦄ x ⦃post⟨fun r => ⌜P r⌝, fun _ => ⌜E⌝⟩⦄) {r : β} (ok : x = .ok r) : P r :=
  Except.of_wp_eq ok (fun o => match o with | .ok r => P r | .error _ => E) h

theorem error_of_triple {β : Type} {x : Outcome β} {P : β → Prop} {E : Prop}
    (h : ⦃⌜True⌝⦄ x ⦃post⟨fun r => ⌜P r⌝, fun _ => ⌜E⌝⟩⦄) {e : Failure} (fails : x = .error e) : E :=
  Except.of_wp_eq fails (fun o => match o with | .ok r => P r | .error _ => E) h

theorem triple_ok_eq {β : Type} (x : Outcome β) :
    ⦃⌜True⌝⦄ x ⦃post⟨fun r => ⌜x = .ok r⌝, fun _ => ⌜True⌝⟩⦄ := by
  cases x with
  | error e =>
    show ⦃⌜True⌝⦄ (MonadExceptOf.throw e : Outcome β)
      ⦃post⟨fun r => ⌜(Except.error e : Outcome β) = .ok r⌝, fun _ => ⌜True⌝⟩⦄
    simp [Triple.iff]
  | ok b =>
    show ⦃⌜True⌝⦄ (pure b : Outcome β)
      ⦃post⟨fun r => ⌜(Except.ok b : Outcome β) = .ok r⌝, fun _ => ⌜True⌝⟩⦄
    mvcgen

variable {α : Type} [Inhabited α] {lt : α → α → Outcome Bool}

/-- Sorting only moves items, whatever the comparison answers. -/
theorem sortWith_perm {xs ys : List α} (sorted : sortWith lt xs = .ok ys) : ys.Perm xs :=
  ok_of_triple (sortWith_spec (fun x y => triple_of_failures (lt x y) fun _ _ => trivial) xs) sorted

/-- Sorting gives an answer when no comparison fails. -/
theorem sortWith_ok (total : ∀ x y, ∃ b, lt x y = .ok b) (xs : List α) :
    ∃ ys, sortWith lt xs = .ok ys ∧ ys.Perm xs := by
  have never (x y : α) : ⦃⌜True⌝⦄ lt x y ⦃post⟨fun _ => ⌜True⌝, fun _ => ⌜False⌝⟩⦄ := by
    refine triple_of_failures (lt x y) fun e fails => ?_
    obtain ⟨b, answer⟩ := total x y
    rw [answer] at fails
    cases fails
  have spec := sortWith_spec never xs
  cases result : sortWith lt xs with
  | error e => exact (error_of_triple spec result).elim
  | ok ys => exact ⟨ys, rfl, ok_of_triple spec result⟩

/-- Sorting by keys only moves the items, in either direction. -/
theorem sortByKeys_perm {β : Type} [Inhabited β] {less : Value → Value → Outcome Bool}
    {keyed : List (Value × β)} {reverse : Bool} {out : List β}
    (sorted : sortByKeys less keyed reverse = .ok out) : out.Perm (keyed.map Prod.snd) := by
  unfold sortByKeys at sorted
  obtain ⟨ys, byKey, answer⟩ := bind_eq_ok sorted
  have moved := (sortWith_perm byKey).map Prod.snd
  injection answer with answer
  subst answer
  cases reverse with
  | false => exact moved
  | true =>
    simp only [if_true, List.map_reverse] at moved ⊢
    exact (List.reverse_perm _).trans (moved.trans (List.reverse_perm _))

end Results

end Dashwright.Value
