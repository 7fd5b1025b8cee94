import Dashwright.Query.Statement
import Mathlib.Data.List.Forall2
import Mathlib.Data.List.TakeWhile

/-! Kinds of statements, read off their text.

A statement's kind is found by searching its text for calls. A call of a function is its name,
matched letter by letter with case ignored, then blanks, an opening parenthesis, and a closing
one later on the same line. The name may stand anywhere: inside a longer identifier, inside a
quoted literal, after any other text. A statement that calls `over` is a window statement; one
that calls an aggregate function of its dialect is an aggregate statement; the rest are
vanilla. So `discount(x)` is an aggregate statement, calling `count`, and `rollover(x)` a
window statement, calling `over`. -/

namespace Dashwright.Query

open Text

/-- A word spells a lower-case name, letter by letter with case ignored. -/
def SpellsName (word name : List Char) : Prop :=
  List.Forall₂ (fun c l => matchesLetterIgnoringCase c l = true) word name

/-- What follows a function's name in a call: blanks, an opening parenthesis, and a closing
one later on the same line. -/
def CallTail (rest : List Char) : Prop :=
  ∃ blanks mid post, rest = blanks ++ '(' :: (mid ++ ')' :: post) ∧
    (∀ c ∈ blanks, isSpace c = true) ∧ '\n' ∉ mid

def CallStarts (name text : List Char) : Prop :=
  ∃ word rest, text = word ++ rest ∧ SpellsName word name ∧ CallTail rest

/-- A call of the function stands somewhere in the text. -/
def CallsIn (name text : List Char) : Prop :=
  ∃ rest, rest <:+ text ∧ CallStarts name rest

theorem afterName_eq_some {name text rest : List Char} :
    afterName name text = some rest ↔ ∃ word, text = word ++ rest ∧ SpellsName word name := by
  induction name generalizing text with
  | nil =>
    simp only [afterName, Option.some.injEq, SpellsName, List.forall₂_nil_right_iff]
    constructor
    · intro same
      exact ⟨[], same ▸ rfl, rfl⟩
    · rintro ⟨_, split, empty⟩
      rw [split, empty, List.nil_append]
  | cons l ls ih =>
    cases text with
    | nil =>
      refine ⟨fun read => by simp [afterName] at read, ?_⟩
      rintro ⟨word, split, spells⟩
      obtain ⟨c, word', _, _, rfl⟩ := List.forall₂_cons_right_iff.mp spells
      cases split
    | cons c cs =>
      rw [afterName]
      constructor
      · intro read
        split at read
        · rename_i first
          obtain ⟨word, rfl, spells⟩ := ih.mp read
          exact ⟨c :: word, rfl, List.Forall₂.cons first spells⟩
        · cases read
      · rintro ⟨word, split, spells⟩
        obtain ⟨c', word', first, spells', rfl⟩ := List.forall₂_cons_right_iff.mp spells
        obtain ⟨rfl, rfl⟩ := List.cons_eq_cons.mp split
        rw [if_pos first]
        exact ih.mpr ⟨word', rfl, spells'⟩

theorem line_through_close_iff {tail a : List Char} :
    (∃ b, tail.takeWhile (· != '\n') = a ++ ')' :: b) ↔ '\n' ∉ a ∧ ∃ post, tail = a ++ ')' :: post := by
  constructor
  · rintro ⟨b, line⟩
    refine ⟨fun broken => ?_, b ++ tail.dropWhile (· != '\n'), ?_⟩
    · have kept := List.mem_takeWhile_imp (line ▸ List.mem_append_left _ broken : '\n' ∈ _)
      simp at kept
    · calc tail = tail.takeWhile (· != '\n') ++ tail.dropWhile (· != '\n') :=
            List.takeWhile_append_dropWhile.symm
        _ = a ++ ')' :: (b ++ tail.dropWhile (· != '\n')) := by rw [line]; simp
  · rintro ⟨oneLine, post, rfl⟩
    have unbroken : ∀ c ∈ a, (c != '\n') = true := fun c member => by
      have : c ≠ '\n' := fun same => oneLine (same ▸ member)
      simpa using this
    rw [List.takeWhile_append_of_pos unbroken, List.takeWhile_cons_of_pos (by decide)]
    exact ⟨_, rfl⟩

theorem closes_on_line_iff {tail : List Char} :
    (tail.takeWhile (· != '\n')).contains ')' = true ↔
      ∃ mid post, tail = mid ++ ')' :: post ∧ '\n' ∉ mid := by
  rw [List.contains_iff_mem]
  constructor
  · intro closes
    obtain ⟨mid, after, line⟩ := List.append_of_mem closes
    obtain ⟨oneLine, post, split⟩ := line_through_close_iff.mp ⟨after, line⟩
    exact ⟨mid, post, split, oneLine⟩
  · rintro ⟨mid, post, split, oneLine⟩
    obtain ⟨b, line⟩ := line_through_close_iff.mpr ⟨oneLine, post, split⟩
    rw [line]
    simp

theorem opensAndCloses_iff {rest : List Char} : opensAndCloses rest = true ↔ CallTail rest := by
  unfold opensAndCloses
  constructor
  · intro opens
    split at opens
    · rename_i tail dropped
      obtain ⟨mid, post, rfl, oneLine⟩ := closes_on_line_iff.mp opens
      -- the blanks are what the dropping passed over
      refine ⟨rest.takeWhile isSpace, mid, post, ?_, fun c member => List.mem_takeWhile_imp member, oneLine⟩
      rw [← dropped, List.takeWhile_append_dropWhile]
    · cases opens
  · rintro ⟨blanks, mid, post, rfl, spaces, oneLine⟩
    have notSpace : isSpace '(' = false := by decide
    rw [List.dropWhile_append_of_pos spaces, List.dropWhile_cons_of_neg (by rw [notSpace]; decide)]
    exact closes_on_line_iff.mpr ⟨mid, post, rfl, oneLine⟩

theorem callStarts_iff {name text : List Char} :
    CallStarts name text ↔ ∃ rest, afterName name text = some rest ∧ opensAndCloses rest = true := by
  simp only [CallStarts, afterName_eq_some, opensAndCloses_iff]
  constructor
  · rintro ⟨word, rest, rfl, spells, tail⟩
    exact ⟨rest, ⟨word, rfl, spells⟩, tail⟩
  · rintro ⟨rest, ⟨word, rfl, spells⟩, tail⟩
    exact ⟨word, rest, rfl, spells, tail⟩

theorem not_callStarts_nil (name : List Char) : ¬ CallStarts name [] := by
  rintro ⟨word, rest, split, -, blanks, mid, post, rfl, -, -⟩
  simp at split

theorem callsIn_cons {name cs : List Char} {c : Char} :
    CallsIn name (c :: cs) ↔ CallStarts name (c :: cs) ∨ CallsIn name cs := by
  simp only [CallsIn, List.suffix_cons_iff]
  constructor
  · rintro ⟨rest, rfl | suffix, starts⟩
    · exact .inl starts
    · exact .inr ⟨rest, suffix, starts⟩
  · rintro (starts | ⟨rest, suffix, starts⟩)
    · exact ⟨c :: cs, .inl rfl, starts⟩
    · exact ⟨rest, .inr suffix, starts⟩

/-- The search finds a call exactly where one stands. -/
theorem callsAt_iff (name text : List Char) : callsAt name text = true ↔ CallsIn name text := by
  induction text with
  | nil =>
    refine ⟨fun found => by simp [callsAt] at found, ?_⟩
    rintro ⟨rest, suffix, starts⟩
    rw [List.suffix_nil.mp suffix] at starts
    exact absurd starts (not_callStarts_nil name)
  | cons c cs ih =>
    -- a call starts here, or somewhere in the rest
    rw [callsAt, Bool.or_eq_true, ih, callsIn_cons, callStarts_iff]
    cases read : afterName name (c :: cs) with
    | none => simp
    | some rest => simp

theorem calls_iff (name text : String) : calls name text = true ↔ CallsIn name.toList text.toList :=
  callsAt_iff _ _

example : calls "count" "discount (price)" = true := by decide +kernel

/-- A statement is a window statement exactly when it calls `over`; otherwise an aggregate
statement exactly when it calls one of its dialect's aggregate functions; otherwise vanilla.
A call is searched for anywhere in the text, with case ignored, also inside a longer name or
a quoted literal, and its closing parenthesis must stand on the line of its opening one. -/
theorem classify_by_calls (d : Dialect) (s : String) :
    (classify d s = .window ↔ CallsIn "over".toList s.toList) ∧
    (classify d s = .aggregate ↔
      ¬ CallsIn "over".toList s.toList ∧ ∃ f ∈ d.aggregates, CallsIn f.toList s.toList) ∧
    (classify d s = .vanilla ↔
      ¬ CallsIn "over".toList s.toList ∧ ∀ f ∈ d.aggregates, ¬ CallsIn f.toList s.toList) := by
  simp only [← calls_iff]
  unfold classify
  by_cases window : calls "over" s = true
  · simp [window]
  · by_cases aggregate : d.aggregates.any (calls · s) = true
    · have called : ∃ f ∈ d.aggregates, calls f s = true := by simpa using aggregate
      simp [window, aggregate, called]
    · have uncalled : ∀ f ∈ d.aggregates, calls f s = false := by simpa using aggregate
      simpa [window, aggregate] using uncalled

/-- `discount(price)` calls no aggregate function by its whole name, yet it is an aggregate
statement: `count` is found inside the longer name. -/
theorem discount_read_as_count :
    "discount" ∉ Dialect.snowflake.aggregates ∧ classify .snowflake "discount(price)" = .aggregate := by
  decide +kernel

end Dashwright.Query
