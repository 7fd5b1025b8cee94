import Dashwright.Proofs.Query.Cohort

/-! The argument of a call, read on one line.

The argument of a call `n(e)` is read from the first `n(` of the text up to the last closing
parenthesis on the same line. For every name `n` and every argument `e` on one line with
something in it, the argument of `n(e)` is `e` trimmed. What is read never runs past a line
break, so an argument written over several lines does not come back whole: when the first line
of `e` holds no closing parenthesis and `n(` stands only at the start of the text, nothing is
read at all (`argumentOf_named_call`). -/

namespace Dashwright.Query

theorem beforeLastClose_begins_line {line arg : List Char} (found : beforeLastClose line = some arg) :
    arg <+: line := by
  unfold beforeLastClose at found
  split at found
  · cases found
    exact List.take_prefix _ _
  · cases found

theorem argumentAt_oneLine {name text arg : List Char} (found : argumentAt name text = some arg) :
    '\n' ∉ arg := by
  induction text with
  | nil => cases found
  | cons c cs ih =>
    rw [argumentAt] at found
    split at found
    · -- read here: the argument starts the line after `name(`
      rename_i read here
      cases found
      split at here
      · split at here
        · rename_i rest _
          intro broken
          have inLine := (beforeLastClose_begins_line here).subset broken
          simpa using List.mem_takeWhile_imp inLine
        · cases here
      · cases here
    · exact ih found

theorem mem_of_mem_strip {s : String} {c : Char} (member : c ∈ (Text.strip s).toList) :
    c ∈ s.toList := by
  rw [Text.strip, String.toList_ofList, Text.dropSpaceRight, List.mem_reverse] at member
  have kept := (List.dropWhile_suffix _).subset member
  rw [List.mem_reverse, Text.dropSpaceLeft] at kept
  exact (List.dropWhile_suffix _).subset kept

/-- The argument of a call in a text holds no line break. -/
theorem argumentOf_oneLine {name text r : String} (found : argumentOf name text = some r) :
    '\n' ∉ r.toList := by
  rw [argumentOf, Option.map_eq_some_iff] at found
  obtain ⟨arg, read, rfl⟩ := found
  intro broken
  have inArg := mem_of_mem_strip broken
  rw [String.toList_ofList] at inArg
  exact argumentAt_oneLine read inArg

theorem callText_toList (n e : String) :
    (n ++ "(" ++ e ++ ")").toList = n.toList ++ '(' :: (e.toList ++ [')']) := by
  simp

theorem argumentOf_unclosed_line {n e : String}
    (alone : ∀ s, s <:+ (n ++ "(" ++ e ++ ")").toList → n.toList ++ ['('] <+: s →
      s = (n ++ "(" ++ e ++ ")").toList)
    (broken : ∃ a b, e.toList = a ++ '\n' :: b ∧ ')' ∉ a) :
    argumentOf n (n ++ "(" ++ e ++ ")") = none := by
  obtain ⟨a, b, split, noClose⟩ := broken
  rw [argumentOf_eq_none_iff]
  rintro ⟨rest, suffix, arg, post, rfl, _, oneLine⟩
  -- the only call is the whole text, so its argument and `e` run from the same place
  have whole := alone _ suffix ⟨arg ++ ')' :: post, by simp⟩
  rw [callText_toList, split] at whole
  simp only [List.append_assoc, List.cons_append, List.append_cancel_left_eq, List.cons.injEq,
    true_and] at whole
  rcases List.append_eq_append_iff.mp whole with ⟨a', rfl, tail⟩ | ⟨c', rfl, tail⟩
  · -- the argument ends inside the first line, at a closing parenthesis of that line
    cases a' with
    | nil => simp at tail
    | cons x a' =>
      simp only [List.cons_append, List.cons.injEq] at tail
      exact noClose (tail.1 ▸ List.mem_append_right arg List.mem_cons_self)
  · -- the argument runs past the line break
    cases c' with
    | nil => simp at tail
    | cons y c' =>
      simp only [List.cons_append, List.cons.injEq] at tail
      exact oneLine (tail.1 ▸ List.mem_append_right a List.mem_cons_self)

/-- For every name `n` and every argument `e` with something in it, the argument of `n(e)` is
`e` trimmed when `e` stands on one line. Whatever is read holds no line break, and nothing is
read when the first line of `e` holds no closing parenthesis and `n(` stands only at the start
of the text. -/
theorem argumentOf_named_call (n e : String) (nonempty : e ≠ "") :
    ('\n' ∉ e.toList → argumentOf n (n ++ "(" ++ e ++ ")") = some (Text.strip e)) ∧
    (∀ r, argumentOf n (n ++ "(" ++ e ++ ")") = some r → '\n' ∉ r.toList) ∧
    ((∀ s, s <:+ (n ++ "(" ++ e ++ ")").toList → n.toList ++ ['('] <+: s →
        s = (n ++ "(" ++ e ++ ")").toList) →
      (∃ a b, e.toList = a ++ '\n' :: b ∧ ')' ∉ a) →
      argumentOf n (n ++ "(" ++ e ++ ")") = none) := by
  refine ⟨fun oneLine => ?_, fun r found => argumentOf_oneLine found, argumentOf_unclosed_line⟩
  unfold argumentOf
  rw [callText_toList, argumentAt_call _ _ oneLine (by simpa using nonempty)]
  simp

/-- The argument of a one-line `sum(amount)` call comes back as written. -/
theorem sumAmount_read_back :
    "sum(amount)" ≠ "" ∧
      argumentOf "query" ("query" ++ "(" ++ "sum(amount)" ++ ")") = some (Text.strip "sum(amount)") :=
  ⟨by decide, (argumentOf_named_call "query" "sum(amount)" (by decide)).1 (by decide)⟩

/-- A call whose argument is written over several lines is not read, though its argument
trimmed is `sum(amount)`. -/
theorem multiline_call_unread :
    argumentOf "query" ("query" ++ "(" ++ "\n  sum(amount)\n" ++ ")") = none ∧
      Text.strip "\n  sum(amount)\n" = "sum(amount)" := by
  decide +kernel

end Dashwright.Query
