import Dashwright.Text.Blank

/-! Splitting at a separator, and replacing a pattern, read through the places it occurs.

A text splits only where its separator occurs: a stretch in which no occurrence starts is
copied whole into the part being read. So a text the separator does not occur in is one part,
a text with one occurrence that nothing overlaps is the two parts around it, and replacing a
one-character pattern is a per-character map. -/

namespace Dashwright.Text

open List

section Occurrences

variable {sep : List Char}

/-- The separator starts at none of the places of `x`, read with `y` after it: no nonempty
end of `x` followed by `y` begins with the separator. -/
def StartsNowhereIn (sep x y : List Char) : Prop :=
  ∀ t, t <:+ x → t ≠ [] → ¬ sep <+: t ++ y

/-- No part of the separator past its first character begins `y`, so no occurrence can start
before `y` and run on into it. -/
def Unmatched (sep y : List Char) : Prop :=
  ∀ k, k < sep.length → 0 < k → ¬ sep.drop k <+: y

instance (sep y : List Char) : Decidable (Unmatched sep y) :=
  inferInstanceAs (Decidable (∀ k, k < sep.length → 0 < k → ¬ sep.drop k <+: y))

theorem splitList_nil (cur : List Char) : splitList sep cur [] = [cur] := by
  rw [splitList]

theorem splitList_here {cur l : List Char} (nonempty : sep ≠ []) (here : sep <+: l) :
    splitList sep cur l = cur :: splitList sep [] (l.drop sep.length) := by
  obtain ⟨c, cs, rfl⟩ := List.exists_cons_of_ne_nil (here.ne_nil nonempty)
  have nonempty' : sep.isEmpty = false := List.isEmpty_eq_false_iff.mpr nonempty
  rw [splitList, if_pos (by simp [nonempty', List.isPrefixOf_iff_prefix.mpr here])]

theorem splitList_past {cur cs : List Char} {c : Char} (absent : ¬ sep <+: c :: cs) :
    splitList sep cur (c :: cs) = splitList sep (cur ++ [c]) cs := by
  have notStart : sep.isPrefixOf (c :: cs) = false := by
    rw [← Bool.not_eq_true, List.isPrefixOf_iff_prefix]
    exact absent
  rw [splitList, if_neg (by simp [notStart])]

theorem splitList_append_of_startsNowhere {x y cur : List Char} (clear : StartsNowhereIn sep x y) :
    splitList sep cur (x ++ y) = splitList sep (cur ++ x) y := by
  induction x generalizing cur with
  | nil => rw [List.nil_append, List.append_nil]
  | cons c x ih =>
    -- the whole of `c :: x` is an end of itself, and every end of `x` is one of `c :: x`
    have absent : ¬ sep <+: c :: (x ++ y) := clear (c :: x) (List.suffix_refl _) (List.cons_ne_nil _ _)
    have rest : StartsNowhereIn sep x y := fun t ending nonempty =>
      clear t (ending.trans (List.suffix_cons c x)) nonempty
    rw [List.cons_append, splitList_past absent, ih rest, List.append_assoc, List.singleton_append]

theorem splitList_of_absent {cur l : List Char} (absent : ¬ sep <:+: l) :
    splitList sep cur l = [cur ++ l] := by
  have clear : StartsNowhereIn sep l [] := fun t ending _ starts =>
    absent (List.infix_iff_prefix_suffix.mpr ⟨t, by rwa [List.append_nil] at starts, ending⟩)
  have whole : splitList sep cur (l ++ []) = splitList sep (cur ++ l) [] :=
    splitList_append_of_startsNowhere clear
  rw [List.append_nil] at whole
  rw [whole, splitList_nil]

theorem prefix_append_cases {t y : List Char} (starts : sep <+: t ++ y) :
    sep <+: t ∨ (t <+: sep ∧ sep.drop t.length <+: y) := by
  rcases Nat.le_total sep.length t.length with shorter | longer
  · exact .inl (List.prefix_of_prefix_length_le starts (List.prefix_append t y) shorter)
  · have begins : t <+: sep := List.prefix_of_prefix_length_le (List.prefix_append t y) starts longer
    obtain ⟨rest, rfl⟩ := begins
    refine .inr ⟨List.prefix_append t rest, ?_⟩
    rw [List.drop_left]
    exact (List.prefix_append_right_inj t).mp starts

theorem startsNowhereIn_of_absent {x y : List Char} (absent : ¬ sep <:+: x)
    (unmatched : Unmatched sep y) : StartsNowhereIn sep x y := by
  intro t ending nonempty starts
  rcases prefix_append_cases starts with within | ⟨begins, after⟩
  · exact absent (List.infix_iff_prefix_suffix.mpr ⟨t, within, ending⟩)
  · have positive : 0 < t.length := List.length_pos_iff.mpr nonempty
    have shorter : t.length < sep.length := by
      rcases Nat.lt_or_ge t.length sep.length with lt | ge
      · exact lt
      · exact absurd (List.infix_iff_prefix_suffix.mpr
          ⟨t, List.prefix_of_prefix_length_le (List.prefix_refl sep) begins ge, ending⟩) absent
    exact unmatched t.length shorter positive after

theorem absent_append {x y : List Char} (absent_x : ¬ sep <:+: x) (absent_y : ¬ sep <:+: y)
    (unmatched : Unmatched sep y) : ¬ sep <:+: x ++ y := by
  intro occurs
  obtain ⟨t, starts, ending⟩ := List.infix_iff_prefix_suffix.mp occurs
  obtain ⟨front, split⟩ := ending
  -- the occurrence starts in `x` or in `y`
  rcases List.append_eq_append_iff.mp split with ⟨mid, rfl, rfl⟩ | ⟨mid, rfl, rfl⟩
  · cases mid with
    | nil =>
      rw [List.nil_append] at starts
      exact absent_y (List.infix_iff_prefix_suffix.mpr ⟨y, starts, List.suffix_refl y⟩)
    | cons c rest =>
      exact startsNowhereIn_of_absent absent_x unmatched (c :: rest) (List.suffix_append front _)
        (List.cons_ne_nil _ _) starts
  · exact absent_y (List.infix_iff_prefix_suffix.mpr ⟨t, starts, List.suffix_append mid t⟩)

theorem absent_after_foreign {x y : List Char} {s : Char} {rest : List Char} (head : sep = s :: rest)
    (foreign : s ∉ x) (absent : ¬ sep <:+: y) : ¬ sep <:+: x ++ y := by
  induction x with
  | nil => simpa using absent
  | cons a x ih =>
    intro occurs
    rw [List.cons_append, List.infix_cons_iff] at occurs
    rcases occurs with starts | inner
    · rw [head] at starts
      obtain ⟨_, same⟩ := starts
      simp only [List.cons_append, List.cons.injEq] at same
      exact foreign (same.1 ▸ List.mem_cons_self)
    · exact ih (fun inX => foreign (List.mem_cons_of_mem a inX)) inner

/-- An occurrence with none starting before it is where the text splits. -/
theorem splitList_at_first {x y cur : List Char} (nonempty : sep ≠ [])
    (clear : StartsNowhereIn sep x (sep ++ y)) :
    splitList sep cur (x ++ sep ++ y) = (cur ++ x) :: splitList sep [] y := by
  rw [List.append_assoc, splitList_append_of_startsNowhere clear,
    splitList_here nonempty (List.prefix_append sep y), List.drop_left]

theorem splitList_ne_nil (cur l : List Char) : splitList sep cur l ≠ [] := by
  fun_induction splitList sep cur l <;> simp_all

theorem one_lt_length_splitList (nonempty : sep ≠ []) (cur l : List Char) :
    1 < (splitList sep cur l).length ↔ sep <:+: l := by
  fun_induction splitList sep cur l with
  | case1 cur => simp [nonempty]
  | case2 cur c cs starts _ =>
    -- the separator starts here, so a second part follows whatever comes after it
    have begins : sep <+: c :: cs := by
      simpa [List.isPrefixOf_iff_prefix, List.isEmpty_eq_false_iff.mpr nonempty] using starts
    have rest : 0 < (splitList sep [] ((c :: cs).drop sep.length)).length :=
      List.length_pos_iff.mpr (splitList_ne_nil _ _)
    simp only [List.length_cons, begins.isInfix, iff_true]
    omega
  | case3 cur c cs notStart ih =>
    have absent : ¬ sep <+: c :: cs := by
      simpa [List.isPrefixOf_iff_prefix, List.isEmpty_eq_false_iff.mpr nonempty] using notStart
    rw [ih, List.infix_cons_iff]
    exact ⟨.inr, fun found => found.resolve_left absent⟩

end Occurrences

theorem contains_iff_infix (s pat : String) : contains s pat = true ↔ pat.toList <:+: s.toList := by
  unfold contains splitOn
  by_cases empty : pat.isEmpty
  · have none : pat.toList = [] := by simpa [String.isEmpty_iff] using empty
    simp [empty, none]
  · have nonempty : pat.toList ≠ [] := by simpa [String.isEmpty_iff] using empty
    simp only [Bool.not_eq_true] at empty
    simp only [empty, Bool.false_eq_true, if_false, List.length_map, Bool.false_or, gt_iff_lt,
      decide_eq_true_eq]
    exact one_lt_length_splitList nonempty [] s.toList

theorem intercalate_splitList_char (c : Char) (rep cur l : List Char) :
    rep.intercalate (splitList [c] cur l) = cur ++ l.flatMap fun x => if x = c then rep else [x] := by
  induction l generalizing cur with
  | nil => rw [splitList_nil, List.intercalate_singleton, List.flatMap_nil, List.append_nil]
  | cons x xs ih =>
    by_cases same : x = c
    · subst same
      have here : [x] <+: x :: xs := List.prefix_append [x] xs
      rw [splitList_here (List.cons_ne_nil _ _) here, List.length_singleton,
        List.drop_one, List.tail_cons, List.intercalate_cons_of_ne_nil (splitList_ne_nil _ _), ih]
      simp
    · have absent : ¬ [c] <+: x :: xs := fun starts => same (List.cons_prefix_cons.mp starts).1.symm
      rw [splitList_past absent, ih]
      simp [same]

theorem splitOn_of_absent {s sep : String} (absent : ¬ sep.toList <:+: s.toList) :
    splitOn s sep = [s] := by
  unfold splitOn
  split
  · rfl
  · rw [splitList_of_absent absent, List.nil_append, List.map_singleton, String.ofList_toList]

theorem replaceAll_of_absent {s pat : String} (rep : String) (absent : ¬ pat.toList <:+: s.toList) :
    replaceAll s pat rep = s := by
  unfold replaceAll
  split
  · rfl
  · rw [splitOn_of_absent absent, String.intercalate_singleton]

theorem replaceAll_at_first {x pat y : String} (rep : String) (nonempty : pat ≠ "")
    (clear : StartsNowhereIn pat.toList x.toList (pat.toList ++ y.toList))
    (absent : ¬ pat.toList <:+: y.toList) :
    replaceAll (x ++ pat ++ y) pat rep = x ++ rep ++ y := by
  have nonempty' : pat.toList ≠ [] := fun empty => nonempty (String.toList_eq_nil_iff.mp empty)
  unfold replaceAll splitOn
  rw [if_neg (by simpa [String.isEmpty_iff] using nonempty), if_neg (by simpa [String.isEmpty_iff] using nonempty),
    String.toList_append, String.toList_append, splitList_at_first nonempty' clear,
    splitList_of_absent absent]
  simp only [List.nil_append, List.map_cons, List.map_nil, String.ofList_toList]
  rw [String.intercalate_cons_of_ne_nil (by simp), String.intercalate_singleton]

theorem replaceAll_char (s : String) (c : Char) (rep : String) :
    (replaceAll s (String.singleton c) rep).toList = s.toList.flatMap fun x => if x = c then rep.toList else [x] := by
  unfold replaceAll splitOn
  rw [if_neg (by simp), if_neg (by simp), String.toList_intercalate, List.map_map]
  have back : String.toList ∘ String.ofList = id := funext fun _ => String.toList_ofList
  rw [back, List.map_id, String.toList_singleton, intercalate_splitList_char, List.nil_append]

end Dashwright.Text
