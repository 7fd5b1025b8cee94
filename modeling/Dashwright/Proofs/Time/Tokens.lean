import Dashwright.Time.Reading
import Dashwright.Proofs.Text.Split

/-!
How the free-form date reader cuts a text into tokens. A text made of runs of ASCII digits,
single marks and single letters, each cut off from what follows it (`Cut`), is read as those
pieces (`dateTokens_of_cut`). A run of digits is a number token with the value of its digits
(`DigitToken`): a whole decimal that names no month and no jump word and reads as seconds
without a fraction.
-/

namespace Dashwright.Time

theorem digit_cases {c : Char} (digit : c.isDigit = true) : ∃ n < 10, c = Char.ofNat (48 + n) := by
  have bounds := Char.isDigit_iff_toNat.mp digit
  simp only [Char.reduceToNat] at bounds
  refine ⟨c.toNat - 48, by omega, ?_⟩
  rw [show 48 + (c.toNat - 48) = c.toNat by omega, Char.ofNat_toNat]

theorem digit_reads {c : Char} (digit : c.isDigit = true) :
    isNumChar c = true ∧ isWordChar c = false ∧ asciiDigitOf c = c ∧ c ≠ '\x00' ∧ c ≠ '.' ∧
      c ≠ ',' ∧ Text.lowerCharsAlone c = [c] ∧ c.toNat ≠ 0x3a3 := by
  obtain ⟨n, small, rfl⟩ := digit_cases digit
  revert n
  decide +kernel

theorem mark_reads : ∀ c ∈ ['-', ':', '+', 'T', 'Z'],
    asciiDigitOf c = c ∧ c ≠ '\x00' ∧ isNumChar c = false ∧ c ≠ '.' ∧ c ≠ ',' := by
  intro c member
  simp only [List.mem_cons, List.not_mem_nil, or_false] at member
  rcases member with rfl | rfl | rfl | rfl | rfl <;> decide +kernel

theorem sign_reads : ∀ c ∈ ['-', ':', '+'], isWordChar c = false ∧ Text.isSpace c = false := by
  intro c member
  simp only [List.mem_cons, List.not_mem_nil, or_false] at member
  rcases member with rfl | rfl | rfl <;> decide +kernel

theorem letter_reads : ∀ c ∈ ['T', 'Z'], isWordChar c = true := by
  intro c member
  simp only [List.mem_cons, List.not_mem_nil, or_false] at member
  rcases member with rfl | rfl <;> decide +kernel

theorem readToken_digits {ds : List Char} (digits : ∀ c ∈ ds, isNumChar c = true) (rest : List Char)
    (stops : ∀ c ∈ rest.head?, isNumChar c = false ∧ c ≠ '.' ∧ c ≠ ',') :
    ∀ (fuel : Nat) (tok : List Char) (seen : Bool), ds.length ≤ fuel →
      readToken fuel .number tok seen (ds ++ rest) = (ds.reverse ++ tok, seen, .number, rest) := by
  induction ds with
  | nil =>
    intro fuel tok seen _
    cases fuel with
    | zero => rfl
    | succ fuel =>
      cases rest with
      | nil => rfl
      | cons c rest =>
        obtain ⟨notNum, notDot, notComma⟩ := stops c rfl
        simp [readToken, notNum, notDot, notComma]
  | cons d ds ih =>
    intro fuel tok seen enough
    obtain ⟨fuel, rfl⟩ : ∃ f, fuel = f + 1 := ⟨fuel - 1, by simp at enough; omega⟩
    rw [List.cons_append, readToken, if_pos (digits d List.mem_cons_self),
      ih (fun c member => digits c (List.mem_cons_of_mem d member)) fuel (d :: tok) seen
        (by simp at enough; omega)]
    simp

theorem finishToken_whole (tok : List Char) (seen : Bool) {mode : LexMode}
    (plain : mode = .number ∨ mode = .word) : finishToken tok seen mode = [String.ofList tok] := by
  rcases plain with rfl | rfl <;> rfl

/-- How a piece of a date text is cut off from what follows it: a run of digits ended by a
character that is no digit and no decimal mark, a single character that is no letter, digit or
blank, or a single letter ended by a character that is no letter and no dot. -/
def CutBefore (p : List Char) (next : Option Char) : Prop :=
  (p ≠ [] ∧ (∀ c ∈ p, isNumChar c = true ∧ isWordChar c = false) ∧
      ∀ c ∈ next, isNumChar c = false ∧ c ≠ '.' ∧ c ≠ ',') ∨
    (∃ c, p = [c] ∧ isWordChar c = false ∧ isNumChar c = false ∧ Text.isSpace c = false) ∨
    (∃ c, p = [c] ∧ isWordChar c = true ∧ ∀ d ∈ next, isWordChar d = false ∧ d ≠ '.')

/-- A text read as pieces, each cut off from the next. -/
inductive Cut : List (List Char) → Prop
  | nil : Cut []
  | cons {p : List Char} {rest : List (List Char)} :
      CutBefore p rest.flatten.head? → Cut rest → Cut (p :: rest)

theorem go_nil (fuel : Nat) (acc : List String) : dateTokens.go fuel [] acc = acc.reverse := by
  cases fuel <;> rfl

theorem go_piece {p rest : List Char} (cut : CutBefore p rest.head?) (fuel : Nat) (acc : List String) :
    dateTokens.go (fuel + 1) (p ++ rest) acc = dateTokens.go fuel rest (String.ofList p :: acc) := by
  rcases cut with ⟨nonempty, digits, stops⟩ | ⟨c, rfl, notWord, notNum, notSpace⟩ |
    ⟨c, rfl, word, stops⟩
  · obtain ⟨d, ds, rfl⟩ := List.exists_cons_of_ne_nil nonempty
    obtain ⟨num, notWord⟩ := digits d List.mem_cons_self
    have numbers : ∀ c ∈ ds, isNumChar c = true :=
      fun c member => (digits c (List.mem_cons_of_mem d member)).1
    have run := readToken_digits numbers rest stops (ds ++ rest).length [d] false (by simp)
    rw [List.cons_append, dateTokens.go, if_pos (by simp [num]), if_neg (by simp [notWord])]
    dsimp only
    rw [run, List.reverse_append, List.reverse_reverse, finishToken_whole _ _ (.inl rfl)]
    rfl
  · rw [List.singleton_append, dateTokens.go, if_neg (by simp [notWord, notNum]),
      if_neg (by simp [notSpace]), String.singleton_eq_ofList]
  · -- a letter stops at once unless a letter or a dot follows it
    have stopped : readToken rest.length .word [c] false rest = ([c], !rest.isEmpty, .word, rest) := by
      cases rest with
      | nil => rfl
      | cons d more =>
        obtain ⟨notWord, notDot⟩ := stops d rfl
        simp [readToken, notWord, notDot]
    rw [List.singleton_append, dateTokens.go, if_pos (by simp [word]), if_pos word]
    dsimp only
    rw [stopped, finishToken_whole _ _ (.inr rfl)]
    rfl

theorem go_cut {pieces : List (List Char)} (cut : Cut pieces) :
    ∀ (fuel : Nat) (acc : List String), pieces.length < fuel →
      dateTokens.go fuel pieces.flatten acc = acc.reverse ++ pieces.map String.ofList := by
  induction cut with
  | nil =>
    intro fuel acc _
    rw [List.flatten_nil, go_nil, List.map_nil, List.append_nil]
  | @cons p rest first _ ih =>
    intro fuel acc enough
    obtain ⟨fuel, rfl⟩ : ∃ f, fuel = f + 1 := ⟨fuel - 1, by simp at enough; omega⟩
    rw [List.flatten_cons, go_piece first, ih fuel _ (by simp at enough; omega)]
    simp

theorem Cut.nonempty {pieces : List (List Char)} (cut : Cut pieces) : ∀ p ∈ pieces, p ≠ [] := by
  induction cut with
  | nil => simp
  | @cons p rest first _ ih =>
    intro q member
    rcases List.mem_cons.mp member with rfl | later
    · rcases first with ⟨nonempty, _⟩ | ⟨c, rfl, _⟩ | ⟨c, rfl, _⟩ <;> simp [*]
    · exact ih q later

theorem length_le_flatten {pieces : List (List Char)} (nonempty : ∀ p ∈ pieces, p ≠ []) :
    pieces.length ≤ pieces.flatten.length := by
  induction pieces with
  | nil => simp
  | cons p rest ih =>
    have first : p.length ≠ 0 := by simpa using nonempty p List.mem_cons_self
    have later := ih (fun q member => nonempty q (List.mem_cons_of_mem p member))
    simp only [List.length_cons, List.flatten_cons, List.length_append]
    omega

/-- A text of plain characters made of pieces each cut off from the next is read as the
pieces. -/
theorem dateTokens_of_cut {s : String} {pieces : List (List Char)} (cut : Cut pieces)
    (chars : s.toList = pieces.flatten) (plain : ∀ c ∈ s.toList, c ≠ '\x00' ∧ asciiDigitOf c = c) :
    dateTokens s = pieces.map String.ofList := by
  have kept : (s.toList.filter (· != '\x00')).map asciiDigitOf = s.toList := by
    rw [List.filter_eq_self.mpr (fun c member => by simp [(plain c member).1])]
    conv => rhs; rw [← List.map_id s.toList]
    exact List.map_congr_left fun c member => (plain c member).2
  unfold dateTokens
  dsimp only
  rw [kept, chars, go_cut cut _ [] (by have := length_le_flatten cut.nonempty; omega)]
  rfl

theorem lower_of_plain {s : String} (plain : ∀ c ∈ s.toList, Text.lowerCharsAlone c = [c] ∧ c.toNat ≠ 0x3a3) :
    Text.lower s = s := by
  have each : ∀ i ∈ List.range s.toList.toArray.size,
      Text.lowerAt s.toList.toArray i = [s.toList[i]!] := by
    intro i member
    have inside : i < s.toList.length := by simpa using member
    have same : s.toList.toArray[i]! = s.toList[i]! := by simp
    have facts := plain s.toList[i]! (by simp [List.getElem?_eq_getElem inside])
    simp only [Text.lowerAt, same, facts.2, beq_iff_eq, if_false, facts.1]
  unfold Text.lower Text.mapByPosition
  dsimp only
  rw [List.flatMap_def, List.map_congr_left each, ← List.flatMap_def, ← List.map_eq_flatMap,
    ← String.ofList_toList (s := s)]
  congr 1
  apply List.ext_getElem
  · simp
  · intro n inRange _
    have inside : n < s.toList.length := by simpa using inRange
    simp [List.getElem?_eq_getElem inside]

theorem contains_digits_eq_false {ds : List Char} (digits : ∀ c ∈ ds, c.isDigit = true)
    {words : List String} (wordy : (words.all fun w => w.toList.any fun c => !c.isDigit) = true) :
    words.contains (String.ofList ds) = false := by
  rw [Bool.eq_false_iff]
  intro found
  obtain ⟨c, member, notDigit⟩ :=
    List.any_eq_true.mp (List.all_eq_true.mp wordy _ (List.contains_iff_mem.mp found))
  rw [String.toList_ofList] at member
  simp [digits c member] at notDigit

theorem lowerIndex_digits {ds : List Char} (digits : ∀ c ∈ ds, c.isDigit = true)
    {table : List (List String)}
    (wordy : (table.all fun row => row.all fun w => w.toList.any fun c => !c.isDigit) = true) :
    lowerIndex table (String.ofList ds) = none := by
  have plain : Text.lower (String.ofList ds) = String.ofList ds :=
    lower_of_plain fun c member => by
      rw [String.toList_ofList] at member
      have facts := digit_reads (digits c member)
      exact ⟨facts.2.2.2.2.2.2.1, facts.2.2.2.2.2.2.2⟩
  unfold lowerIndex
  rw [plain, List.findIdx?_eq_none_iff]
  intro row member
  rw [contains_digits_eq_false digits (List.all_eq_true.mp wordy row member)]

/-- A token of `k` ASCII digits with the value `v`, with what the reader reads of it. -/
structure DigitToken (t : String) (v k : Nat) : Prop where
  ofToken : Dec.ofToken? t = some ⟨v, 0⟩
  length : t.length = k
  value : digitsValue t.toList = some v
  noDot : t.toList.contains '.' = false
  notJump : isJump t = false
  notMonth : monthOf? t = none
  seconds : secondsAndMicros t = .ok (v, 0)

theorem DigitToken.of_digits {ds : List Char} {v : Nat} (digits : ∀ c ∈ ds, c.isDigit = true)
    (value : digitsValue ds = some v) : DigitToken (String.ofList ds) v ds.length := by
  have noDot : '.' ∉ ds := fun member => (digit_reads (digits '.' member)).2.2.2.2.1 rfl
  have whole : Text.splitOn (String.ofList ds) "." = [String.ofList ds] :=
    Text.splitOn_of_absent fun occurs => noDot (by simpa using occurs.subset (List.mem_singleton_self '.'))
  refine ⟨?_, by simp, by simpa using value, by simpa using noDot, ?_, ?_, ?_⟩
  · rw [Dec.ofToken?, whole]
    dsimp only
    rw [String.toList_ofList, value]
    rfl
  · unfold isJump
    rw [lower_of_plain fun c member => by
        rw [String.toList_ofList] at member
        have facts := digit_reads (digits c member)
        exact ⟨facts.2.2.2.2.2.2.1, facts.2.2.2.2.2.2.2⟩]
    exact contains_digits_eq_false digits (by decide +kernel)
  · unfold monthOf?
    rw [lowerIndex_digits digits (by decide +kernel)]
    rfl
  · rw [secondsAndMicros, whole]
    simp [digitsOf?, value, need]
    rfl

theorem padNat_toList (w n : Nat) :
    (padNat w n).toList = List.replicate (w - (Nat.toDigits 10 n).length) '0' ++ Nat.toDigits 10 n := by
  simp only [padNat, String.toList_append, String.toList_ofList, Nat.toString_eq_repr, Nat.toList_repr,
    ← String.length_toList]

theorem padNat_digits (w n : Nat) : ∀ c ∈ (padNat w n).toList, c.isDigit = true := by
  rw [padNat_toList]
  intro c member
  rcases List.mem_append.mp member with zeros | digits
  · rw [List.eq_of_mem_replicate zeros]
    rfl
  · exact Nat.isDigit_of_mem_toDigits (by decide) (by decide) digits

theorem digitsValue_padNat (w n : Nat) : digitsValue (padNat w n).toList = some n := by
  have nonempty : (padNat w n).toList ≠ [] := by simp [padNat_toList]
  have asDigits : (padNat w n).toList.foldl (fun acc c => acc * 10 + (c.toNat - 48)) 0 =
      Nat.ofDigitChars 10 (padNat w n).toList 0 := by
    rw [Nat.ofDigitChars_eq_foldl]
    congr 1
    funext acc c
    rw [Nat.mul_comm]
    rfl
  unfold digitsValue
  rw [if_neg (by simp [nonempty, List.all_eq_true.mpr (padNat_digits w n)]), asDigits, padNat_toList,
    Nat.ofDigitChars_append, Nat.ofDigitChars_replicate_zero, Nat.mul_zero, Nat.ofDigitChars_ten_toDigits]

theorem length_padNat {w n : Nat} (small : n < Nat.pow 10 w) (wide : 0 < w) : (padNat w n).toList.length = w := by
  have fits := (Nat.length_toDigits_le_iff (by decide) wide).mpr small
  rw [padNat_toList, List.length_append, List.length_replicate]
  omega

theorem DigitToken.padNat {w n : Nat} (small : n < Nat.pow 10 w) (wide : 0 < w) :
    DigitToken (Dashwright.padNat w n) n w := by
  have token := DigitToken.of_digits (padNat_digits w n) (digitsValue_padNat w n)
  rwa [String.ofList_toList, length_padNat small wide] at token

end Dashwright.Time
