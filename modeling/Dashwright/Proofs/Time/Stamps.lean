import Dashwright.Proofs.Time.Tokens
import Dashwright.Proofs.Time.Calendar

/-!
ISO 8601 stamps and how the free-form date reader reads them. A `Stamp` writes a date of the
years 1 to 9999 as `YYYY-MM-DD`, optionally followed by `T`, a time `HH:MM:SS` and a zone:
nothing, `Z`, or a sign with two-digit hours and minutes. Its text is cut into its numbers and
marks (`dateTokens_stamp`); the numbers fill the date, then the time, then the offset
(`readFields_stamp`); and the reader gives back the moment the stamp writes
(`readMoment_stamp`).
-/

namespace Dashwright.Time

/-- A time of day to the second. -/
structure Clock where
  hour : Nat
  minute : Nat
  second : Nat
  hour_lt : hour < 24
  minute_lt : minute < 60
  second_lt : second < 60

/-- How a time is placed: without a zone, at `Z`, or at an offset written with a sign (`-` west
of UTC), two-digit hours and two-digit minutes. -/
inductive Zone where
  | naive
  | utc
  | offset (west : Bool) (hours minutes : Nat) (small : hours < 100 ∧ minutes < 100)

/-- A date of the years 1 to 9999, alone or with a time and a zone. -/
structure Stamp where
  date : Date
  valid : date.isValid = true
  year_range : 1 ≤ date.year ∧ date.year ≤ 9999
  time : Option (Clock × Zone)

namespace Zone

def signText (west : Bool) : String := if west then "-" else "+"

def text : Zone → String
  | naive => ""
  | utc => "Z"
  | offset west h m _ => signText west ++ padNat 2 h ++ ":" ++ padNat 2 m

/-- The offset from UTC, in seconds. -/
def seconds : Zone → Int
  | naive | utc => 0
  | offset west h m _ => (if west then -1 else 1) * (h * 3600 + m * 60)

def tokens : Zone → List String
  | naive => []
  | utc => ["Z"]
  | offset west h m _ => [signText west, padNat 2 h, ":", padNat 2 m]

end Zone

namespace Stamp

def text (s : Stamp) : String :=
  s.date.iso ++ match s.time with
    | none => ""
    | some (c, z) => "T" ++ padNat 2 c.hour ++ ":" ++ padNat 2 c.minute ++ ":" ++ padNat 2 c.second ++ z.text

/-- The moment a stamp writes: midnight for a date alone, and UTC without a zone. -/
def moment (s : Stamp) : Moment :=
  match s.time with
  | none => ⟨s.date, 0, 0, 0, 0, some 0⟩
  | some (c, z) => ⟨s.date, c.hour, c.minute, c.second, 0, some z.seconds⟩

def dateTokens (s : Stamp) : List String :=
  [padNat 4 s.date.year.toNat, "-", padNat 2 s.date.month, "-", padNat 2 s.date.day]

/-- The tokens of a stamp's text: its numbers and its marks. -/
def tokens (s : Stamp) : List String :=
  s.dateTokens ++ match s.time with
    | none => []
    | some (c, z) => ["T", padNat 2 c.hour, ":", padNat 2 c.minute, ":", padNat 2 c.second] ++ z.tokens

theorem text_eq_join (s : Stamp) : s.text = String.join s.tokens := by
  have year : yearText s.date.year = padNat 4 s.date.year.toNat := by
    rw [yearText, if_neg (by have := s.year_range; omega)]
  obtain ⟨date, valid, years, time⟩ := s
  rcases time with _ | ⟨c, _ | _ | ⟨west, h, m, small⟩⟩ <;>
    simp [text, tokens, dateTokens, Date.iso, year, Zone.text, Zone.tokens, String.join_cons,
      String.join_nil, String.append_assoc]

end Stamp

theorem isDigit_padNat_head {w n : Nat} (rest : List String) :
    ∀ c ∈ ((padNat w n :: rest).map String.toList).flatten.head?, c.isDigit = true := by
  intro c first
  have nonempty : (padNat w n).toList ≠ [] := by simp [padNat_toList]
  obtain ⟨d, ds, split⟩ := List.exists_cons_of_ne_nil nonempty
  simp only [List.map_cons, List.flatten_cons, split, List.cons_append, List.head?_cons,
    Option.mem_def, Option.some.injEq] at first
  subst first
  exact padNat_digits w n d (by rw [split]; exact List.mem_cons_self)

theorem cut_padNat {w n : Nat} {rest : List String} (later : Cut (rest.map String.toList))
    (next : ∀ c ∈ (rest.map String.toList).flatten.head?, c ∈ ['-', ':', '+', 'T', 'Z']) :
    Cut ((padNat w n :: rest).map String.toList) := by
  refine .cons (.inl ⟨by simp [padNat_toList], fun c member => ?_, fun c first => ?_⟩) later
  · have facts := digit_reads (padNat_digits w n c member)
    exact ⟨facts.1, facts.2.1⟩
  · have facts := mark_reads c (next c first)
    exact ⟨facts.2.2.1, facts.2.2.2⟩

theorem cut_sign {t : String} (sign : t ∈ ["-", ":", "+"]) {rest : List String}
    (later : Cut (rest.map String.toList)) : Cut ((t :: rest).map String.toList) := by
  have single : ∃ c ∈ ['-', ':', '+'], t.toList = [c] := by
    simp at sign
    rcases sign with rfl | rfl | rfl <;> simp
  obtain ⟨c, member, chars⟩ := single
  have facts := sign_reads c member
  have marks := mark_reads c (by simp at member; rcases member with rfl | rfl | rfl <;> simp)
  rw [List.map_cons, chars]
  exact .cons (.inr (.inl ⟨c, rfl, facts.1, marks.2.2.1, facts.2⟩)) later

theorem cut_letter {t : String} (letter : t ∈ ["T", "Z"]) {rest : List String}
    (later : Cut (rest.map String.toList))
    (next : ∀ c ∈ (rest.map String.toList).flatten.head?, c.isDigit = true) :
    Cut ((t :: rest).map String.toList) := by
  have single : ∃ c ∈ ['T', 'Z'], t.toList = [c] := by
    simp at letter
    rcases letter with rfl | rfl <;> simp
  obtain ⟨c, member, chars⟩ := single
  rw [List.map_cons, chars]
  refine .cons (.inr (.inr ⟨c, rfl, letter_reads c member, fun d first => ?_⟩)) later
  have facts := digit_reads (next d first)
  exact ⟨facts.2.1, facts.2.2.2.2.1⟩

theorem head_mark {t : String} (mark : t ∈ ["-", ":", "+", "T", "Z"]) (rest : List String) :
    ∀ c ∈ ((t :: rest).map String.toList).flatten.head?, c ∈ ['-', ':', '+', 'T', 'Z'] := by
  simp at mark
  rcases mark with rfl | rfl | rfl | rfl | rfl <;> simp

theorem cut_date (y m d : Nat) {rest : List String} (later : Cut (rest.map String.toList))
    (next : ∀ c ∈ (rest.map String.toList).flatten.head?, c ∈ ['-', ':', '+', 'T', 'Z']) :
    Cut (([padNat 4 y, "-", padNat 2 m, "-", padNat 2 d] ++ rest).map String.toList) :=
  cut_padNat (cut_sign (by simp) (cut_padNat (cut_sign (by simp) (cut_padNat later next))
    (head_mark (by simp) _))) (head_mark (by simp) _)

theorem cut_zone (z : Zone) : Cut (z.tokens.map String.toList) ∧
    ∀ c ∈ (z.tokens.map String.toList).flatten.head?, c ∈ ['-', ':', '+', 'T', 'Z'] := by
  cases z with
  | naive => exact ⟨.nil, by simp [Zone.tokens]⟩
  | utc => exact ⟨cut_letter (by simp) .nil (by simp), head_mark (by simp) []⟩
  | offset west h m _ =>
    have sign : Zone.signText west ∈ ["-", ":", "+"] := by cases west <;> simp [Zone.signText]
    refine ⟨cut_sign sign (cut_padNat (cut_sign (by simp) (cut_padNat .nil (by simp)))
      (head_mark (by simp) _)), head_mark ?_ _⟩
    cases west <;> simp [Zone.signText]

theorem cut_stamp (s : Stamp) : Cut (s.tokens.map String.toList) := by
  obtain ⟨date, _, _, time⟩ := s
  rcases time with _ | ⟨c, z⟩
  · exact cut_date _ _ _ .nil (by simp)
  · obtain ⟨zoneCut, zoneNext⟩ := cut_zone z
    exact cut_date _ _ _ (cut_letter (by simp) (cut_padNat (cut_sign (by simp) (cut_padNat
      (cut_sign (by simp) (cut_padNat zoneCut zoneNext)) (head_mark (by simp) _)))
      (head_mark (by simp) _)) (isDigit_padNat_head _)) (head_mark (by simp) _)

theorem tokens_chars (s : Stamp) :
    ∀ t ∈ s.tokens, ∀ c ∈ t.toList, c.isDigit = true ∨ c ∈ ['-', ':', '+', 'T', 'Z'] := by
  have digits : ∀ w n, ∀ c ∈ (padNat w n).toList,
      c.isDigit = true ∨ c = '-' ∨ c = ':' ∨ c = '+' ∨ c = 'T' ∨ c = 'Z' :=
    fun w n c member => .inl (padNat_digits w n c member)
  obtain ⟨date, _, _, time⟩ := s
  -- the marks are checked by simp; what is left is one conjunct for each padded number
  rcases time with _ | ⟨c, _ | _ | ⟨west, h, m, small⟩⟩
  · simp [Stamp.tokens, Stamp.dateTokens]
    and_intros <;> exact digits _ _
  · simp [Stamp.tokens, Stamp.dateTokens, Zone.tokens]
    and_intros <;> exact digits _ _
  · simp [Stamp.tokens, Stamp.dateTokens, Zone.tokens]
    and_intros <;> exact digits _ _
  · cases west <;> simp [Stamp.tokens, Stamp.dateTokens, Zone.tokens, Zone.signText] <;>
      and_intros <;> exact digits _ _

theorem dateTokens_stamp (s : Stamp) : dateTokens s.text = s.tokens := by
  have chars : s.text.toList = (s.tokens.map String.toList).flatten := by
    rw [Stamp.text_eq_join, String.toList_join, List.flatMap_def]
  have plain : ∀ c ∈ s.text.toList, c ≠ '\x00' ∧ asciiDigitOf c = c := by
    intro c member
    rw [chars, List.mem_flatten] at member
    obtain ⟨p, token, inP⟩ := member
    obtain ⟨t, t_mem, rfl⟩ := List.mem_map.mp token
    rcases tokens_chars s t t_mem c inP with digit | mark
    · have facts := digit_reads digit
      exact ⟨facts.2.2.2.1, facts.2.2.1⟩
    · have facts := mark_reads c mark
      exact ⟨facts.2.1, facts.1⟩
  rw [dateTokens_of_cut (cut_stamp s) chars plain, List.map_map]
  simp

/-! ### Reading the tokens

Each lemma below reads one part of a stamp: the date at token 0, the `T` at 5, the time at 6,
and the zone at 11. The tokens are written out as a list, since the reader looks ahead.
-/

theorem marks_unread : ∀ t ∈ ["-", ":", "T", "+", "Z"], Dec.ofToken? t = none ∧
    isSpecialFloat t = false ∧ weekdayOf? t = none ∧ monthOf? t = none ∧ halfOf? t = none ∧
    unitOf? t = none := by
  decide +kernel

/-- The numbers of a date read with its year first. -/
def dateYmd (y m d : Nat) : Ymd := ⟨[y, m, d], true, some 0, none, none⟩

theorem readAt_date {Y M D : String} {y m d : Nat}
    (tY : DigitToken Y y 4) (tM : DigitToken M m 2) (tD : DigitToken D d 2) (rest : List String) :
    readAt 0 ⟨(Y :: "-" :: M :: "-" :: D :: rest).toArray, Ymd.empty, Fields.empty⟩ =
      .ok (5, ⟨(Y :: "-" :: M :: "-" :: D :: rest).toArray, dateYmd y m d, Fields.empty⟩) := by
  have dash := marks_unread "-" (by simp)
  simp [readAt, readNumber, tok, tokD, need, unitIndex, Ymd.pushText, Ymd.push, digitsOf?,
    Ymd.empty, tY.ofToken, tY.length, tY.value, tM.notJump, tM.value, tM.length, tD.notMonth,
    tD.value, tD.length, dash, dateYmd]
  rfl

theorem readAt_tee (Y M D : String) (rest : List String) (ymd : Ymd) :
    readAt 5 ⟨(Y :: "-" :: M :: "-" :: D :: "T" :: rest).toArray, ymd, Fields.empty⟩ =
      .ok (6, ⟨(Y :: "-" :: M :: "-" :: D :: "T" :: rest).toArray, ymd, Fields.empty⟩) := by
  have tee := marks_unread "T" (by simp)
  have jump : isJump "T" = true := by decide +kernel
  simp [readAt, tok, need, tee, couldBeZone, Fields.empty, jump]
  rfl

def clockFields (h mi s : Nat) : Fields :=
  { Fields.empty with hour := some h, minute := some mi, second := some s, micro := some 0 }

theorem readAt_clock {Y M D H Mi S : String} {h mi s : Nat} (tH : DigitToken H h 2)
    (tMi : DigitToken Mi mi 2) (tS : DigitToken S s 2) (ymd : Ymd) (three : ymd.items.length = 3)
    (rest : List String) :
    readAt 6 ⟨(Y :: "-" :: M :: "-" :: D :: "T" :: H :: ":" :: Mi :: ":" :: S :: rest).toArray, ymd,
        Fields.empty⟩ =
      .ok (11, ⟨(Y :: "-" :: M :: "-" :: D :: "T" :: H :: ":" :: Mi :: ":" :: S :: rest).toArray,
        ymd, clockFields h mi s⟩) := by
  have colon := marks_unread ":" (by simp)
  have tee := marks_unread "T" (by simp)
  simp [readAt, readNumber, tok, tokD, need, unitIndex, three, tH.ofToken, tH.length,
    tMi.ofToken, tS.seconds, colon, tee, Fields.empty, Dec.trunc, Dec.unit, clockFields]
  rfl

theorem readAt_zee (Y M D H Mi S : String) (ymd : Ymd) (h mi s : Nat) :
    readAt 11 ⟨[Y, "-", M, "-", D, "T", H, ":", Mi, ":", S, "Z"].toArray, ymd, clockFields h mi s⟩ =
      .ok (12, ⟨[Y, "-", M, "-", D, "T", H, ":", Mi, ":", S, "Z"].toArray, ymd,
        { clockFields h mi s with zone := some "Z" }⟩) := by
  have zee : Dec.ofToken? "Z" = none ∧ isSpecialFloat "Z" = false ∧ weekdayOf? "Z" = none ∧
      monthOf? "Z" = none ∧ halfOf? "Z" = none ∧ "Z".length ≤ 5 ∧
      "Z".toList.all (fun c => 'A' ≤ c && c ≤ 'Z') = true := by
    decide +kernel
  simp [readAt, tok, need, zee, couldBeZone, clockFields, Fields.empty]
  rfl

theorem sign_unread : ∀ t ∈ ["+", "-"], Dec.ofToken? t = none ∧ isSpecialFloat t = false ∧
    weekdayOf? t = none ∧ monthOf? t = none ∧ halfOf? t = none ∧
    (t.toList.all (fun c => 'A' ≤ c && c ≤ 'Z') || ["UTC", "GMT", "Z", "z"].contains t) = false := by
  decide +kernel

theorem couldBeZone_sign (f : Fields) {sign : String} (isSign : sign ∈ ["+", "-"]) :
    couldBeZone f sign = false := by
  rw [couldBeZone, (sign_unread sign isSign).2.2.2.2.2, Bool.and_false]

theorem readAt_offset {Y M D H Mi S sign OH OM : String} {oh om : Nat} (isSign : sign ∈ ["+", "-"])
    (tOH : DigitToken OH oh 2) (tOM : DigitToken OM om 2) (ymd : Ymd) (h mi s : Nat) :
    readAt 11 ⟨[Y, "-", M, "-", D, "T", H, ":", Mi, ":", S, sign, OH, ":", OM].toArray, ymd,
        clockFields h mi s⟩ =
      .ok (15, ⟨[Y, "-", M, "-", D, "T", H, ":", Mi, ":", S, sign, OH, ":", OM].toArray, ymd,
        { clockFields h mi s with
          offset := some ((if sign = "+" then 1 else -1) * (oh * 3600 + om * 60)) }⟩) := by
  have signFacts := sign_unread sign isSign
  have either : sign = "+" ∨ sign = "-" := by simpa using isSign
  simp [readAt, tok, tokD, need, signFacts, couldBeZone_sign _ isSign, clockFields, Fields.empty,
    either, tOH.length, tOH.value, tOM.value, digitsOf?]
  rfl

theorem readFrom_step {fuel i j : Nat} {st st' : ReadState} (inside : i < st.tokens.size)
    (step : readAt i st = .ok (j, st')) : readFrom (fuel + 1) i st = readFrom fuel j st' := by
  rw [readFrom, if_pos inside, step]
  rfl

theorem readFrom_past (fuel i : Nat) {st : ReadState} (past : st.tokens.size ≤ i) :
    readFrom fuel i st = .ok st := by
  cases fuel with
  | zero => rfl
  | succ fuel => rw [readFrom, if_neg (by omega)]; rfl

/-- The fields the reader takes from a zone, on top of those of the time before it. -/
def Zone.readInto (z : Zone) (f : Fields) : Fields :=
  match z with
  | naive => f
  | utc => { f with zone := some "Z" }
  | offset .. => { f with offset := some z.seconds }

/-- The fields the reader takes from a stamp's time and zone. -/
def timeFields : Option (Clock × Zone) → Fields
  | none => Fields.empty
  | some (c, z) => z.readInto (clockFields c.hour c.minute c.second)

theorem DigitToken.two {n : Nat} (small : n < 100) : DigitToken (Dashwright.padNat 2 n) n 2 :=
  DigitToken.padNat small (by decide)

theorem Stamp.date_digits (s : Stamp) :
    DigitToken (padNat 4 s.date.year.toNat) s.date.year.toNat 4 ∧
      DigitToken (padNat 2 s.date.month) s.date.month 2 ∧ DigitToken (padNat 2 s.date.day) s.date.day 2 := by
  have valid := s.valid
  simp only [Date.isValid, Bool.and_eq_true, decide_eq_true_eq] at valid
  have days := Date.daysInMonth_le s.date.year s.date.month
  have years := s.year_range
  have year : s.date.year.toNat < Nat.pow 10 4 := by
    show _ < 10000
    omega
  exact ⟨DigitToken.padNat year (by decide), DigitToken.two (by omega), DigitToken.two (by omega)⟩

theorem Clock.digits (c : Clock) : DigitToken (padNat 2 c.hour) c.hour 2 ∧
    DigitToken (padNat 2 c.minute) c.minute 2 ∧ DigitToken (padNat 2 c.second) c.second 2 :=
  ⟨DigitToken.two (by have := c.hour_lt; omega), DigitToken.two (by have := c.minute_lt; omega),
    DigitToken.two (by have := c.second_lt; omega)⟩

theorem readFrom_stamp (s : Stamp) :
    readFrom (s.tokens.length + 1) 0 ⟨s.tokens.toArray, Ymd.empty, Fields.empty⟩ =
      .ok ⟨s.tokens.toArray, dateYmd s.date.year.toNat s.date.month s.date.day, timeFields s.time⟩ := by
  obtain ⟨tY, tM, tD⟩ := s.date_digits
  obtain ⟨date, valid, years, time⟩ := s
  -- the tokens written out, so that each step of the reader meets the token it reads
  simp only [Stamp.tokens, Stamp.dateTokens, List.cons_append, List.nil_append, List.length_cons]
  rcases time with _ | ⟨c, z⟩
  · rw [readFrom_step (by simp) (readAt_date tY tM tD []), readFrom_past _ _ (by simp)]
    rfl
  · obtain ⟨tH, tMi, tS⟩ := c.digits
    have three : (dateYmd date.year.toNat date.month date.day).items.length = 3 := rfl
    rcases z with _ | _ | ⟨west, oh, om, small⟩
    · simp only [Zone.tokens, List.length_cons, List.length_nil]
      rw [readFrom_step (by simp) (readAt_date tY tM tD _), readFrom_step (by simp) (readAt_tee _ _ _ _ _),
        readFrom_step (by simp) (readAt_clock tH tMi tS _ three []), readFrom_past _ _ (by simp)]
      rfl
    · simp only [Zone.tokens, List.length_cons, List.length_nil]
      rw [readFrom_step (by simp) (readAt_date tY tM tD _), readFrom_step (by simp) (readAt_tee _ _ _ _ _),
        readFrom_step (by simp) (readAt_clock tH tMi tS _ three _),
        readFrom_step (by simp) (readAt_zee _ _ _ _ _ _ _ _ _ _), readFrom_past _ _ (by simp)]
      rfl
    · have sign : Zone.signText west ∈ ["+", "-"] := by cases west <;> simp [Zone.signText]
      have factor : (if Zone.signText west = "+" then (1 : Int) else -1) = if west then -1 else 1 := by
        cases west <;> decide
      simp only [Zone.tokens, List.length_cons, List.length_nil]
      rw [readFrom_step (by simp) (readAt_date tY tM tD _), readFrom_step (by simp) (readAt_tee _ _ _ _ _),
        readFrom_step (by simp) (readAt_clock tH tMi tS _ three _),
        readFrom_step (by simp) (readAt_offset sign (DigitToken.two small.1) (DigitToken.two small.2) _ _ _ _),
        readFrom_past _ _ (by simp), factor]
      rfl

theorem resolve_dateYmd (y m d : Nat) : (dateYmd y m d).resolve = .ok (some y, some m, some d) := by
  simp [Ymd.resolve, dateYmd, Ymd.at?]
  rfl

/-- The fields the reader gives for a stamp: its date, its time, and its zone, where a zone at
UTC itself is named `UTC`. -/
def Stamp.fields (s : Stamp) : Fields :=
  let f := { timeFields s.time with
    year := some s.date.year, month := some (s.date.month : Int), day := some (s.date.day : Int) }
  match s.time with
  | some (_, .utc) => { f with zone := some "UTC", offset := some 0 }
  | some (_, .offset west h m small) =>
    if (Zone.offset west h m small).seconds = 0 then { f with zone := some "UTC", offset := some 0 }
    else f
  | _ => f

theorem attempt_ok_bind {α β : Type} (a : α) (f : α → Attempt β) : (Except.ok a >>= f) = f a := rfl

theorem readFields_stamp (s : Stamp) : readFields s.text = .ok s.fields := by
  unfold readFields
  dsimp only
  rw [dateTokens_stamp, List.size_toArray, readFrom_stamp, attempt_ok_bind]
  dsimp only
  rw [resolve_dateYmd, attempt_ok_bind]
  obtain ⟨date, valid, years, time⟩ := s
  have year : ((date.year.toNat : Nat) : Int) = date.year := by omega
  -- the zone decides how the fields are named at the end
  rcases time with _ | ⟨c, _ | _ | ⟨west, h, m, small⟩⟩
  · simp [Stamp.fields, timeFields, Fields.empty, dateYmd, convertYear, year]
    rfl
  · simp [Stamp.fields, timeFields, Fields.empty, dateYmd, convertYear, year, Zone.readInto, clockFields]
    rfl
  · simp [Stamp.fields, timeFields, Fields.empty, dateYmd, convertYear, year, Zone.readInto, clockFields]
    rfl
  · simp [Stamp.fields, timeFields, Fields.empty, dateYmd, convertYear, year, Zone.readInto, clockFields]
    split <;> rfl

theorem machineIntProblem?_small {v : Int} (low : -2147483648 ≤ v) (high : v ≤ 2147483647) :
    machineIntProblem? v = none := by
  have limit : Int.pow 2 63 = 9223372036854775808 := by decide
  simp only [machineIntProblem?, limit, ge_iff_le, Bool.or_eq_true, decide_eq_true_eq, gt_iff_lt]
  rw [if_neg (by omega), if_neg (by omega), if_neg (by omega)]

theorem Stamp.date_fits (s : Stamp) :
    machineIntProblem? s.date.year = none ∧ machineIntProblem? s.date.month = none ∧
      machineIntProblem? s.date.day = none ∧ 1 ≤ s.date.year ∧ s.date.year ≤ 9999 ∧
      (1 : Int) ≤ s.date.month ∧ (s.date.month : Int) ≤ 12 ∧ (1 : Int) ≤ s.date.day ∧
      s.date.day ≤ Date.daysInMonth s.date.year s.date.month := by
  have valid := s.valid
  simp only [Date.isValid, Bool.and_eq_true, decide_eq_true_eq] at valid
  have days := Date.daysInMonth_le s.date.year s.date.month
  have years := s.year_range
  refine ⟨machineIntProblem?_small ?_ ?_, machineIntProblem?_small ?_ ?_, machineIntProblem?_small ?_ ?_,
    ?_, ?_, ?_, ?_, ?_, valid.2⟩ <;> omega

theorem Clock.fits (c : Clock) :
    machineIntProblem? c.hour = none ∧ machineIntProblem? c.minute = none ∧
      machineIntProblem? c.second = none ∧ (c.hour : Int) ≤ 23 ∧ (c.minute : Int) ≤ 59 ∧
      (c.second : Int) ≤ 59 := by
  have := c.hour_lt; have := c.minute_lt; have := c.second_lt
  refine ⟨machineIntProblem?_small ?_ ?_, machineIntProblem?_small ?_ ?_, machineIntProblem?_small ?_ ?_,
    ?_, ?_, ?_⟩ <;> omega

theorem toMoment_stamp (s : Stamp) : s.fields.toMoment = .ok s.moment := by
  have date := s.date_fits
  obtain ⟨date, valid, years, time⟩ := s
  rcases time with _ | ⟨c, _ | _ | ⟨west, h, m, bounds⟩⟩
  · simp [Stamp.fields, Stamp.moment, timeFields, Fields.toMoment, Fields.empty, date]
    rfl
  · simp [Stamp.fields, Stamp.moment, timeFields, Fields.toMoment, Fields.empty, Zone.readInto,
      clockFields, date, c.fits]
    rfl
  · simp [Stamp.fields, Stamp.moment, timeFields, Fields.toMoment, Fields.empty, Zone.readInto,
      clockFields, date, c.fits, Zone.seconds]
    rfl
  · -- an offset of zero is named UTC, and read as zero again
    by_cases zero : (Zone.offset west h m bounds).seconds = 0 <;>
      simp [Stamp.fields, Stamp.moment, timeFields, Fields.toMoment, Fields.empty, Zone.readInto,
        clockFields, date, c.fits, zero] <;>
      rfl

theorem Stamp.fields_year (s : Stamp) : s.fields.year = some s.date.year := by
  obtain ⟨date, valid, years, time⟩ := s
  rcases time with _ | ⟨c, _ | _ | ⟨west, h, m, bounds⟩⟩ <;> simp [Stamp.fields]
  split <;> rfl

/-- The free-form reader reads every stamp as the moment it writes. -/
theorem readMoment_stamp (s : Stamp) : readMoment s.text = .ok s.moment := by
  have filled : s.fields.isEmpty = false := by simp [Fields.isEmpty, s.fields_year]
  rw [readMoment, readFields_stamp]
  dsimp only
  rw [filled, toMoment_stamp]
  rfl

end Dashwright.Time
