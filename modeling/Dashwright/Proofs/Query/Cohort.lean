import Dashwright.Proofs.Query.Filters
import Dashwright.Proofs.Query.Kinds
import Dashwright.Proofs.Value.Texts

/-! The cohort of a trace.

A trace's query splits its rows into cohorts by one expression. It is the trace's own
`cohort_on` when that is given (the argument when it is a `query(...)` call), and otherwise the
trace's name between single quotes, meant as a text literal. The name is put between the quotes
as it is: a quote in the name is not written twice, so the expression is one SQL literal whose
value is the name exactly when the name holds no quote. The grouping pass leaves a quoted
literal out, and it reads a literal as such only when it stands on one line. -/

namespace Dashwright.Query

open Text

/-- A quote is written twice inside a literal; any other character once. -/
def escapeQuote (c : Char) : List Char := if c = '\'' then ['\'', '\''] else [c]

/-- The SQL literal of a text: between single quotes, each quote in it written twice. -/
def quoteLiteral (v : List Char) : List Char := '\'' :: (v.flatMap escapeQuote ++ ['\''])

/-- The value of the rest of a literal after its opening quote, when the literal ends the text:
a quote written twice stands for one, and a quote standing alone must be the last character. -/
def literalBody : List Char → Option (List Char)
  | [] => none
  | c :: rest =>
    if c = '\'' then
      match rest with
      | [] => some []
      | d :: more => if d = '\'' then (literalBody more).map ('\'' :: ·) else none
    else (literalBody rest).map (c :: ·)

/-- Reads a whole text as one SQL literal, giving its value. -/
def readLiteral : List Char → Option (List Char)
  | [] => none
  | c :: body => if c = '\'' then literalBody body else none

theorem literalBody_escaped (v : List Char) : literalBody (v.flatMap escapeQuote ++ ['\'']) = some v := by
  induction v with
  | nil => rfl
  | cons c rest ih =>
    by_cases quote : c = '\''
    · subst quote
      simp [escapeQuote, literalBody, ih]
    · rw [List.flatMap_cons, escapeQuote, if_neg quote, List.singleton_append, List.cons_append,
        literalBody.eq_def]
      dsimp only
      rw [if_neg quote, ih]
      rfl

theorem eq_escaped_of_literalBody {body v : List Char} (read : literalBody body = some v) :
    body = v.flatMap escapeQuote ++ ['\''] := by
  fun_induction literalBody body generalizing v with
  | case1 => cases read
  | case2 =>
    cases read
    rfl
  | case3 more ih =>
    obtain ⟨w, found, rfl⟩ := Option.map_eq_some_iff.mp read
    simp [escapeQuote, ih found]
  | case4 => cases read
  | case5 c rest notQuote ih =>
    obtain ⟨w, found, rfl⟩ := Option.map_eq_some_iff.mp read
    simp [escapeQuote, notQuote, ih found]

theorem escaped_of_noQuote {n : List Char} (noQuote : '\'' ∉ n) : n.flatMap escapeQuote = n := by
  induction n with
  | nil => rfl
  | cons c rest ih =>
    have notQuote : c ≠ '\'' := fun same => noQuote (same ▸ List.mem_cons_self)
    rw [List.flatMap_cons, escapeQuote, if_neg notQuote, ih fun inRest => noQuote (List.mem_cons_of_mem c inRest)]
    rfl

theorem readLiteral_eq_some_iff {t v : List Char} : readLiteral t = some v ↔ t = quoteLiteral v := by
  constructor
  · intro read
    cases t with
    | nil => cases read
    | cons c body =>
      by_cases quote : c = '\''
      · rw [readLiteral, if_pos quote] at read
        rw [quote, quoteLiteral, ← eq_escaped_of_literalBody read]
      · rw [readLiteral, if_neg quote] at read
        cases read
  · rintro rfl
    exact literalBody_escaped v

theorem length_quoteLiteral (v : List Char) :
    (quoteLiteral v).length = v.length + v.count '\'' + 2 := by
  induction v with
  | nil => rfl
  | cons c rest ih =>
    simp only [quoteLiteral, List.length_cons, List.length_append, List.length_flatMap] at ih ⊢
    by_cases quote : c = '\''
    · subst quote
      simp [escapeQuote] at ih ⊢
      omega
    · simp [escapeQuote, quote] at ih ⊢
      omega

/-- A text between two quotes, as they stand, is one literal with that text as its value
exactly when the text holds no quote. -/
theorem quoted_reads_back_iff (n : List Char) :
    readLiteral ('\'' :: (n ++ ['\''])) = some n ↔ '\'' ∉ n := by
  rw [readLiteral_eq_some_iff]
  constructor
  · intro same
    have lengths := congrArg List.length same
    rw [length_quoteLiteral] at lengths
    simp only [List.length_cons, List.length_append, List.length_nil] at lengths
    exact List.count_eq_zero.mp (by omega)
  · intro noQuote
    rw [quoteLiteral, escaped_of_noQuote noQuote]

/-- A call with an argument starts the text: the function's name, an opening parenthesis, at
least one character on the same line, and a closing parenthesis. -/
def CallWithArgument (name text : List Char) : Prop :=
  ∃ arg post, text = name ++ '(' :: (arg ++ ')' :: post) ∧ arg ≠ [] ∧ '\n' ∉ arg

/-- A call with an argument stands somewhere in the text. -/
def HoldsCall (name text : List Char) : Prop :=
  ∃ rest, rest <:+ text ∧ CallWithArgument name rest

theorem mem_zip_range {chars : List Char} {c : Char} {i : Nat} :
    (c, i) ∈ chars.zip (List.range chars.length) ↔ ∃ h : i < chars.length, chars[i] = c := by
  rw [List.mem_iff_getElem]
  simp

theorem beforeLastClose_eq_none_iff {chars : List Char} :
    beforeLastClose chars = none ↔ ¬ ∃ a b, chars = a ++ ')' :: b ∧ a ≠ [] := by
  unfold beforeLastClose
  split
  · rename_i c i found
    obtain ⟨inLine, at_i⟩ := mem_zip_range.mp (List.mem_reverse.mp (List.mem_of_find?_eq_some found))
    have closing : c = ')' ∧ 0 < i := by simpa using List.find?_some found
    refine ⟨fun same => absurd same (Option.some_ne_none _), fun none_after => (none_after ⟨chars.take i, chars.drop (i + 1), ?_, ?_⟩).elim⟩
    · rw [← closing.1, ← at_i, List.getElem_cons_drop, List.take_append_drop]
    · simp only [ne_eq, List.take_eq_nil_iff, not_or]
      exact ⟨by omega, List.ne_nil_of_length_pos (by omega)⟩
  · rename_i notFound
    refine ⟨?_, fun _ => rfl⟩
    rintro - ⟨a, b, split, nonempty⟩
    -- the parenthesis after `a` is one the search would have found
    have inLine : a.length < chars.length := by simp [split]
    have at_a : chars[a.length] = ')' := by simp [split]
    have found := List.find?_eq_none.mp notFound (')', a.length) (List.mem_reverse.mpr (mem_zip_range.mpr ⟨inLine, at_a⟩))
    simp [List.length_pos_iff.mpr nonempty] at found

theorem closesAfter_iff {rest : List Char} :
    (∃ arg post, rest = arg ++ ')' :: post ∧ arg ≠ [] ∧ '\n' ∉ arg) ↔
      beforeLastClose (rest.takeWhile (· != '\n')) ≠ none := by
  rw [ne_eq, beforeLastClose_eq_none_iff, not_not]
  constructor
  · rintro ⟨arg, post, split, nonempty, oneLine⟩
    obtain ⟨b, line⟩ := line_through_close_iff.mpr ⟨oneLine, post, split⟩
    exact ⟨arg, b, line, nonempty⟩
  · rintro ⟨a, b, line, nonempty⟩
    obtain ⟨oneLine, post, split⟩ := line_through_close_iff.mp ⟨b, line⟩
    exact ⟨a, post, split, nonempty, oneLine⟩

theorem callWithArgument_iff {name text : List Char} :
    CallWithArgument name text ↔ (text.take name.length == name) = true ∧
      ∃ rest, text.drop name.length = '(' :: rest ∧ beforeLastClose (rest.takeWhile (· != '\n')) ≠ none := by
  constructor
  · rintro ⟨arg, post, rfl, nonempty, oneLine⟩
    refine ⟨by simp, _, List.drop_left' rfl, closesAfter_iff.mp ⟨arg, post, rfl, nonempty, oneLine⟩⟩
  · rintro ⟨named, rest, opens, closes⟩
    obtain ⟨arg, post, rfl, nonempty, oneLine⟩ := closesAfter_iff.mpr closes
    refine ⟨arg, post, ?_, nonempty, oneLine⟩
    rw [← List.take_append_drop name.length text, opens, eq_of_beq named]

theorem not_callWithArgument_nil (name : List Char) : ¬ CallWithArgument name [] := by
  rintro ⟨arg, post, split, -⟩
  simp at split

theorem holdsCall_cons {name cs : List Char} {c : Char} :
    HoldsCall name (c :: cs) ↔ CallWithArgument name (c :: cs) ∨ HoldsCall name cs := by
  simp only [HoldsCall, List.suffix_cons_iff]
  constructor
  · rintro ⟨rest, rfl | suffix, call⟩
    · exact .inl call
    · exact .inr ⟨rest, suffix, call⟩
  · rintro (call | ⟨rest, suffix, call⟩)
    · exact ⟨c :: cs, .inl rfl, call⟩
    · exact ⟨rest, .inr suffix, call⟩

theorem argumentAt_eq_none_iff {name text : List Char} :
    argumentAt name text = none ↔ ¬ HoldsCall name text := by
  induction text with
  | nil =>
    refine ⟨?_, fun _ => rfl⟩
    rintro - ⟨rest, suffix, call⟩
    rw [List.suffix_nil.mp suffix] at call
    exact not_callWithArgument_nil name call
  | cons c cs ih =>
    rw [holdsCall_cons, not_or, ← ih, argumentAt]
    split
    · -- a call is read here
      rename_i arg here
      refine ⟨fun same => absurd same (Option.some_ne_none _), ?_⟩
      rintro ⟨noCall, -⟩
      refine (noCall ?_).elim
      split at here
      · rename_i named
        split at here
        · rename_i rest opens
          exact callWithArgument_iff.mpr ⟨named, rest, opens, by simp [here]⟩
        · cases here
      · cases here
    · -- nothing is read here: no call starts here
      rename_i here
      refine ⟨fun later => ⟨fun call => ?_, later⟩, And.right⟩
      obtain ⟨named, rest, opens, closes⟩ := callWithArgument_iff.mp call
      rw [if_pos named, opens] at here
      exact closes here

theorem argumentOf_eq_none_iff {name text : String} :
    argumentOf name text = none ↔ ¬ HoldsCall name.toList text.toList := by
  rw [argumentOf, Option.map_eq_none_iff, argumentAt_eq_none_iff]

/-- The cohort expression a chosen text gives: the argument of its `query(...)` call when it
has a call with an argument that is not empty once trimmed, and the text itself otherwise. -/
def cohortOf (c : String) : String := ((argumentOf "query" c).filter (!·.isEmpty)).getD c

theorem cohortOf_call {e : String} (oneLine : '\n' ∉ e.toList) (nonblank : Text.strip e ≠ "") :
    cohortOf ("query(" ++ e ++ ")") = Text.strip e := by
  have nonempty : e ≠ "" := fun empty => nonblank (by rw [empty]; rfl)
  rw [cohortOf, argumentOf_query e oneLine nonempty]
  simp [Option.filter, nonblank]

theorem cohortOf_of_noCall {c : String} (noCall : ¬ HoldsCall "query".toList c.toList) : cohortOf c = c := by
  rw [cohortOf, argumentOf_eq_none_iff.mpr noCall]
  rfl

theorem cohortOn_chosen {trace : Value} {c : String} (nonempty : c ≠ "")
    (chosen : field trace "cohort_on" = some (.str c) ∨
      (field trace "cohort_on" = none ∧ ∃ n, field trace "name" = some (.str n) ∧ n ≠ "" ∧ c = "'" ++ n ++ "'")) :
    cohortOn trace = .ok (cohortOf c) := by
  have truthy : (Value.str c).truthy = true := by simpa [Value.truthy] using nonempty
  unfold cohortOn
  rcases chosen with own | ⟨noOwn, n, named, given, rfl⟩
  case' inl => simp only [own, Option.getD_some, truthy, if_true]
  case' inr =>
    have nameTruthy : (Value.str n).truthy = true := by simpa [Value.truthy] using given
    simp only [noOwn, named, Option.getD_none, Option.getD_some, nameTruthy, if_true,
      show Value.none.truthy = false from rfl, Bool.false_eq_true, if_false,
      show (Value.str n).text = n from rfl, truthy]
  -- either way the cohort is read from the chosen text
  all_goals
    rw [show argumentOfValue "query" (.str _) = .ok (argumentOf "query" _) from rfl, ok_bind]
    unfold cohortOf
    cases argumentOf "query" _ with
    | none => rfl
    | some arg => cases empty : arg.isEmpty <;> simp [Option.filter, empty] <;> rfl

/-- A character a name may hold: an ASCII letter or digit, white space, a quote of either kind,
a hyphen or an underscore. -/
def nameChar (c : Char) : Bool :=
  c.isAlphanum || isSpace c || c == '\'' || c == '"' || c == '-' || c == '_'

/-- A name the models accept: one or more name characters. -/
def NameAccepted (n : String) : Prop := n ≠ "" ∧ ∀ c ∈ n.toList, nameChar c = true

instance nameAccepted_decidable (n : String) : Decidable (NameAccepted n) :=
  decidable_of_iff (n ≠ "" ∧ n.toList.all nameChar = true) (by rw [List.all_eq_true]; rfl)

theorem quotedName_noCall {n : String} (accepted : NameAccepted n) :
    argumentOf "query" ("'" ++ n ++ "'") = none := by
  have noParen : '(' ∉ ("'" ++ n ++ "'").toList := by
    intro member
    simp only [String.toList_append, List.mem_append] at member
    rcases member with (inQuote | inName) | inQuote
    · simp at inQuote
    · have parenRefused : nameChar '(' = false := by decide
      exact absurd (accepted.2 '(' inName) (by rw [parenRefused]; decide)
    · simp at inQuote
  unfold argumentOf
  rw [argumentAt_of_absent fun inside => noParen (inside.subset (by simp))]
  rfl

theorem isQuotedLiteral_quoted {n : String} (oneLine : '\n' ∉ n.toList) :
    isQuotedLiteral ("'" ++ n ++ "'") = true := by
  have text : ("'" ++ n ++ "'").toList = '\'' :: (n.toList ++ ['\'']) := by simp
  have quoteNotSpace : isSpace '\'' = false := by decide
  have edges : dropSpaceRight (dropSpaceLeft ('\'' :: (n.toList ++ ['\'']))) = '\'' :: (n.toList ++ ['\'']) := by
    rw [dropSpaceLeft, List.dropWhile_cons_of_neg (by simp [quoteNotSpace]), dropSpaceRight,
      ← List.cons_append, List.reverse_append, List.reverse_singleton, List.singleton_append,
      List.dropWhile_cons_of_neg (by simp [quoteNotSpace]), List.reverse_cons, List.reverse_reverse]
  obtain ⟨c, cs, split⟩ : ∃ c cs, n.toList ++ ['\''] = c :: cs := List.exists_cons_of_ne_nil (by simp)
  unfold isQuotedLiteral
  rw [text, edges, split]
  split
  · rename_i rest head tail same
    -- the text after the opening quote is the name and the closing quote
    rw [← (List.cons_eq_cons.mp same).2, ← split, List.getLast?_concat, List.dropLast_concat]
    simp [oneLine]
  · rename_i other
    exact absurd rfl (other c cs)

theorem dialectOf_name (d : Dialect) : dialectOf d.name = .ok d := by
  cases d <;> rfl

theorem groupBy_unquoted {trace modelSql targetName : Value} {d : Dialect} {tt : TokenizedTrace}
    {warnings : List String} (ok : tokenize trace modelSql targetName (.str d.name) = .ok (tt, warnings)) :
    ∀ s ∈ tt.groupBy.getD [], isQuotedLiteral s = false := by
  obtain ⟨name, named, grouped⟩ := tokenize_groups ok
  -- the dialect is named by a text, read as it is
  cases named
  rw [groupStatements_eq (dialectOf_name d)] at grouped
  have result := Except.ok.inj grouped
  intro s member
  dsimp only at result
  split at result
  · rw [← result] at member
    cases member
  · rw [← result, Option.getD_some, mem_distinctSorted, List.mem_filter, decide_eq_true_iff] at member
    exact member.2.1

/-- A trace with no cohort of its own, named by an accepted name `n`, has the cohort expression
`'n'`: the name between quotes as it is. That is one SQL literal with the value `n` exactly when
`n` holds no quote, and when `n` stands on one line the trace groups by it in no dialect. A
cohort of its own of the form `query(e)`, with `e` on one line and not blank, gives `e` trimmed;
one that holds no call with an argument gives itself. -/
theorem cohort_expression :
    (∀ trace n, field trace "cohort_on" = none → field trace "name" = some (.str n) → NameAccepted n →
      cohortOn trace = .ok ("'" ++ n ++ "'") ∧
      (readLiteral ("'" ++ n ++ "'").toList = some n.toList ↔ '\'' ∉ n.toList) ∧
      ('\n' ∉ n.toList → ∀ (d : Dialect) modelSql targetName tt warnings,
        tokenize trace modelSql targetName (.str d.name) = .ok (tt, warnings) →
          "'" ++ n ++ "'" ∉ tt.groupBy.getD [])) ∧
    (∀ trace e, field trace "cohort_on" = some (.str ("query(" ++ e ++ ")")) → '\n' ∉ e.toList →
      Text.strip e ≠ "" → cohortOn trace = .ok (Text.strip e)) ∧
    (∀ trace c, field trace "cohort_on" = some (.str c) → c ≠ "" → ¬ HoldsCall "query".toList c.toList →
      cohortOn trace = .ok c) := by
  refine ⟨fun trace n noOwn named accepted => ⟨?_, ?_, ?_⟩, fun trace e own oneLine nonblank => ?_,
    fun trace c own nonempty noCall => ?_⟩
  · have chosen := cohortOn_chosen (by simp) (.inr ⟨noOwn, n, named, accepted.1, rfl⟩)
    rwa [cohortOf, quotedName_noCall accepted] at chosen
  · simpa using quoted_reads_back_iff n.toList
  · intro oneLine d modelSql targetName tt warnings ok grouped
    have unquoted := groupBy_unquoted ok _ grouped
    rw [isQuotedLiteral_quoted oneLine] at unquoted
    cases unquoted
  · rw [cohortOn_chosen (by simp) (.inl own), cohortOf_call oneLine nonblank]
  · rw [cohortOn_chosen nonempty (.inl own), cohortOf_of_noCall noCall]

/-- A trace named `Weekly sales` with no cohort of its own is grouped under `'Weekly sales'`;
a cohort `query( region )` gives `region`, and a cohort `region` gives itself. -/
theorem named_and_own_cohorts :
    (field (.record [("name", .str "Weekly sales")]) "cohort_on" = none ∧
      field (.record [("name", .str "Weekly sales")]) "name" = some (.str "Weekly sales") ∧
      NameAccepted "Weekly sales" ∧
      cohortOn (.record [("name", .str "Weekly sales")]) = .ok "'Weekly sales'") ∧
    (field (.record [("cohort_on", .str "query( region )")]) "cohort_on" =
        some (.str ("query(" ++ " region " ++ ")")) ∧
      '\n' ∉ " region ".toList ∧ Text.strip " region " ≠ "" ∧
      cohortOn (.record [("cohort_on", .str "query( region )")]) = .ok (Text.strip " region ")) ∧
    (field (.record [("cohort_on", .str "region")]) "cohort_on" = some (.str "region") ∧ "region" ≠ "" ∧
      ¬ HoldsCall "query".toList "region".toList ∧
      cohortOn (.record [("cohort_on", .str "region")]) = .ok "region") := by
  have noOwn : field (.record [("name", .str "Weekly sales")]) "cohort_on" = none := by decide +kernel
  have named : field (.record [("name", .str "Weekly sales")]) "name" = some (.str "Weekly sales") := by
    simp [field, Value.field?, Value.record, lookupEntry, Value.text_equal_iff]
  have accepted : NameAccepted "Weekly sales" := by decide +kernel
  have call : field (.record [("cohort_on", .str "query( region )")]) "cohort_on" =
      some (.str ("query(" ++ " region " ++ ")")) := by
    simp [field, Value.field?, Value.record, lookupEntry, Value.text_equal_iff]
  have oneLine : '\n' ∉ " region ".toList := by decide +kernel
  have nonblank : Text.strip " region " ≠ "" := by decide +kernel
  have plain : field (.record [("cohort_on", .str "region")]) "cohort_on" = some (.str "region") := by
    simp [field, Value.field?, Value.record, lookupEntry, Value.text_equal_iff]
  have noCall : ¬ HoldsCall "query".toList "region".toList := argumentAt_eq_none_iff.mp rfl
  exact ⟨⟨noOwn, named, accepted, (cohort_expression.1 _ _ noOwn named accepted).1⟩,
    ⟨call, oneLine, nonblank, cohort_expression.2.1 _ _ call oneLine nonblank⟩,
    ⟨plain, by decide, noCall, cohort_expression.2.2 _ _ plain (by decide) noCall⟩⟩

/-- The name `it's` is accepted, but the cohort expression `'it's'` of a trace so named is no
SQL literal: the quote in the name closes the literal early. -/
theorem quotedName_breaks_literal :
    NameAccepted "it's" ∧ cohortOn (.record [("name", .str "it's")]) = .ok "'it's'" ∧
      readLiteral "'it's'".toList = none := by
  decide +kernel

end Dashwright.Query
