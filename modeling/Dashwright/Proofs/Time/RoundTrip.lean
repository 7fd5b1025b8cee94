import Dashwright.Proofs.Time.Stamps
import Dashwright.Proofs.Loops
import Dashwright.Proofs.Number.Doubles

/-!
Timestamps through their ISO text and back. A whole number of seconds whose UTC date lies in
the years 1 to 9999 is written by `isoOf` as its UTC stamp (`isoOf_int`): the date alone at
midnight, else the date, the time and `+00:00`. The reader of `unixOf` reads every stamp as
the instant it writes, as long as its offset is less than a day (`unixOf_stamp`). The instant
comes back as a double, which holds it exactly, so it equals the second and `isoOf` writes it as
it writes the second.
-/

namespace Dashwright.Time

/-- Seconds since the epoch whose UTC date lies in the years 1 to 9999. -/
def InCivilRange (t : Int) : Prop := -62135596800 ≤ t ∧ t ≤ 253402300799

instance decidableInCivilRange (t : Int) : Decidable (InCivilRange t) :=
  inferInstanceAs (Decidable (-62135596800 ≤ t ∧ t ≤ 253402300799))

/-- The time of day of a second of a day. -/
def Clock.ofSeconds (r : Nat) (day : r < 86400) : Clock :=
  ⟨r / 3600, r / 60 % 60, r % 60, by omega, by omega, by omega⟩

/-- The offset `+00:00`. -/
def Zone.zero : Zone := .offset false 0 0 ⟨by decide, by decide⟩

/-- The UTC stamp of a second: its date alone at midnight, else its date and time at
`+00:00`. -/
def utcStamp (t : Int) (range : InCivilRange t) : Stamp where
  date := Date.ofDays (t / 86400)
  valid := Date.ofDays_isValid _ (by unfold InCivilRange at range; omega)
  year_range := Date.ofDays_year _ (by unfold InCivilRange at range; omega)
    (by unfold InCivilRange at range; omega)
  time := if midnight : t % 86400 = 0 then none
    else some (Clock.ofSeconds (t % 86400).toNat (by omega), Zone.zero)

/-- The offset of a stamp, in seconds; none is UTC. -/
def Stamp.offsetSeconds (s : Stamp) : Int := s.moment.offset.getD 0

/-- The instant a stamp writes, in seconds since the epoch. -/
def Stamp.utcSeconds (s : Stamp) : Int := s.moment.wallSeconds - s.offsetSeconds

theorem ofMicros_seconds (t : Int) (offset : Option Int) :
    Moment.ofMicros (t * 1000000 + (0 : Nat)) offset =
      ⟨Date.ofDays (t / 86400), (t % 86400).toNat / 3600, (t % 86400).toNat / 60 % 60,
        (t % 86400).toNat % 60, 0, offset⟩ := by
  have days : (t * 1000000 + (0 : Nat)) / 86400000000 = t / 86400 := by omega
  have rest : ((t * 1000000 + (0 : Nat)) % 86400000000).toNat = (t % 86400).toNat * 1000000 := by
    omega
  simp only [Moment.ofMicros, days, rest, Nat.mul_div_cancel _ (by decide : 0 < 1000000),
    Nat.mul_mod_left]

theorem momentOf_int {t : Int} (range : InCivilRange t) :
    momentOf (.int t) = .ok (utcStamp t range).moment := by
  have within := range
  unfold InCivilRange at within
  have fits : fitsSeconds t = true := by
    have limit : Int.pow 2 63 = 9223372036854775808 := by decide
    simp only [fitsSeconds, limit, decide_eq_true_eq]
    omega
  have years := Date.ofDays_year (t / 86400) (by omega) (by omega)
  have limit : Int.pow 2 31 = 2147483648 := by decide
  unfold momentOf
  rw [splitTimestamp, if_pos fits]
  show utcMoment t 0 = _
  unfold utcMoment
  rw [ofMicros_seconds]
  dsimp only
  rw [limit, if_neg (by omega), if_neg (by omega)]
  unfold utcStamp Stamp.moment
  by_cases midnight : t % 86400 = 0
  · simp [midnight]
    rfl
  · simp only [midnight, dite_false]
    rfl

theorem zero_text : offsetText ":" 0 0 = Zone.zero.text := by decide +kernel

theorem isoOf_int {t : Int} (range : InCivilRange t) : isoOf (.int t) = .ok (utcStamp t range).text := by
  unfold isoOf
  rw [momentOf_int range, ok_bind]
  by_cases midnight : t % 86400 = 0
  · simp [utcStamp, Stamp.moment, Stamp.text, midnight]
    rfl
  · have zero : Zone.zero.seconds = 0 := rfl
    simp [utcStamp, Stamp.moment, Stamp.text, midnight, Moment.iso, Moment.isoWith, Moment.clockText,
      Clock.ofSeconds, zero, zero_text, String.append_assoc]
    -- a second that is not midnight has an hour, a minute or a second that is not zero
    rw [if_neg (by omega)]
    rfl

theorem utcStamp_utcSeconds {t : Int} (range : InCivilRange t) : (utcStamp t range).utcSeconds = t := by
  have days := Date.toDays_ofDays (t / 86400) (by unfold InCivilRange at range; omega)
  have zero : Zone.zero.seconds = 0 := rfl
  unfold Stamp.utcSeconds Stamp.offsetSeconds Moment.wallSeconds utcStamp Stamp.moment
  by_cases midnight : t % 86400 = 0
  · simp [midnight, days]
    omega
  · simp [midnight, days, Clock.ofSeconds, zero]
    omega

/-- The double nearest to a whole number of seconds, as `unixOf` computes it from microseconds. -/
def secondsDouble (u : Int) : Float := Number.floatOfDecimal (u < 0) (u.natAbs * 1000000) (-6)

theorem secondsDouble_micros (u : Int) :
    Number.floatOfDecimal (decide (u * 1000000 < 0)) (u * 1000000).natAbs (-6) = secondsDouble u := by
  have sign : decide (u * 1000000 < 0) = decide (u < 0) := decide_eq_decide.mpr (by omega)
  rw [sign, Int.natAbs_mul]
  rfl

theorem Stamp.moment_micro (s : Stamp) : s.moment.micro = 0 := by
  unfold Stamp.moment
  split <;> rfl

theorem unixOf_stamp (s : Stamp) :
    unixOf (.str s.text) =
      if s.offsetSeconds.natAbs < 86400 then .ok (secondsDouble s.utcSeconds)
      else .error (Failure.badValue
        "offset must be a timedelta strictly between -timedelta(hours=24) and timedelta(hours=24).") := by
  unfold unixOf
  dsimp only
  rw [readMoment_stamp, ok_bind]
  unfold Stamp.utcSeconds Stamp.offsetSeconds
  by_cases near : (s.moment.offset.getD 0).natAbs < 86400
  · have inside : ¬ (s.moment.offset.getD 0 ≤ -86400 ∨ s.moment.offset.getD 0 ≥ 86400) := by omega
    simp [near, inside, s.moment_micro]
    rw [secondsDouble_micros]
    rfl
  · have outside : s.moment.offset.getD 0 ≤ -86400 ∨ s.moment.offset.getD 0 ≥ 86400 := by omega
    simp [near, outside]
    rfl

theorem utcStamp_offsetSeconds {t : Int} (range : InCivilRange t) : (utcStamp t range).offsetSeconds = 0 := by
  unfold Stamp.offsetSeconds utcStamp Stamp.moment
  by_cases midnight : t % 86400 = 0
  · simp [midnight]
  · simp only [midnight, dite_false]
    rfl

theorem InCivilRange.natAbs_lt {t : Int} (range : InCivilRange t) : t.natAbs < 2 ^ 53 := by
  unfold InCivilRange at range
  omega

theorem secondsDouble_whole {u : Int} (small : u.natAbs < 2 ^ 53) :
    secondsDouble u = Number.ofUnpacked (Number.wholeUnpacked (u < 0) u.natAbs) := by
  have micro : (1000000 : Nat) = Nat.pow 10 (-6 : Int).natAbs := by decide
  unfold secondsDouble
  rw [micro]
  exact Number.floatOfDecimal_whole _ small (by decide)

theorem splitTimestamp_whole {u : Int} (small : u.natAbs < 2 ^ 53) :
    splitTimestamp (.float (Number.ofUnpacked (Number.wholeUnpacked (u < 0) u.natAbs))) = .ok (u, 0) := by
  obtain ⟨d, dPos, parts⟩ := Number.exactParts_whole small
  obtain ⟨e, -, zeroParts⟩ := Number.exactParts_whole (u := 0) (by decide)
  -- the fraction left is zero, and zero over any denominator rounds to the double zero
  have noFraction : Number.nearestFloat false 0 d =
      some (Number.ofUnpacked (Number.wholeUnpacked (decide ((0 : Int) < 0)) (0 : Int).natAbs)) := by
    simp [Number.nearestFloat, Number.nearestUnpacked_zero, Number.wholeUnpacked]
  simp only [splitTimestamp, Number.isNaN_whole _ small, Number.isInf_whole _ small,
    Bool.false_eq_true, if_false]
  rw [parts, Int.mul_tdiv_cancel _ (by omega), Int.sub_self]
  simp only [Int.natAbs_zero, Nat.zero_mul, Int.lt_irrefl, decide_false]
  rw [noFraction]
  simp only [Option.getD_some, zeroParts, Int.zero_mul]
  simp [Number.roundQuotient_zero]
  rw [if_neg (by omega)]
  rfl

theorem momentOf_secondsDouble {t : Int} (range : InCivilRange t) :
    momentOf (.float (secondsDouble t)) = momentOf (.int t) := by
  have fits : fitsSeconds t = true := by
    have limit : Int.pow 2 63 = 9223372036854775808 := by decide
    unfold InCivilRange at range
    simp only [fitsSeconds, limit, decide_eq_true_eq]
    omega
  unfold momentOf
  rw [secondsDouble_whole range.natAbs_lt, splitTimestamp_whole range.natAbs_lt, splitTimestamp,
    if_pos fits]
  rfl

theorem isoOf_secondsDouble {t : Int} (range : InCivilRange t) :
    isoOf (.float (secondsDouble t)) = .ok (utcStamp t range).text := by
  rw [← isoOf_int range]
  unfold isoOf
  rw [momentOf_secondsDouble range]

theorem equal_secondsDouble {t : Int} (range : InCivilRange t) :
    Value.equal (.float (secondsDouble t)) (.int t) = true := by
  rw [secondsDouble_whole range.natAbs_lt]
  simp only [Value.equal, Value.Numeric.equal, Number.isNaN_whole _ range.natAbs_lt,
    Number.isInf_whole _ range.natAbs_lt, Number.compareIntFloat_whole range.natAbs_lt]
  rfl

/-- Seconds and stamps through each other. Every second in range is written by `isoOf` as its
UTC stamp, which `unixOf` reads as a double equal to the second. Every stamp whose instant lies in
range and whose offset is less than a day is read by `unixOf` as a double equal to that instant,
which `isoOf` writes as the instant's UTC stamp. -/
theorem iso_unix_round_trip :
    (∀ (t : Int) (range : InCivilRange t), isoOf (.int t) = .ok (utcStamp t range).text ∧
      ∃ f, unixOf (.str (utcStamp t range).text) = .ok f ∧ Value.equal (.float f) (.int t) = true) ∧
    (∀ (s : Stamp) (range : InCivilRange s.utcSeconds), s.offsetSeconds.natAbs < 86400 →
      ∃ f, unixOf (.str s.text) = .ok f ∧ Value.equal (.float f) (.int s.utcSeconds) = true ∧
        isoOf (.float f) = .ok (utcStamp s.utcSeconds range).text) := by
  refine ⟨fun t range => ⟨isoOf_int range, secondsDouble t, ?_, equal_secondsDouble range⟩,
    fun s range near => ⟨secondsDouble s.utcSeconds, ?_, equal_secondsDouble range,
      isoOf_secondsDouble range⟩⟩
  · rw [unixOf_stamp, utcStamp_offsetSeconds, utcStamp_utcSeconds]
    rfl
  · rw [unixOf_stamp, if_pos near]

theorem iso_unix_round_trip_epoch :
    isoOf (.int 0) = .ok "1970-01-01" ∧
      ∃ f, unixOf (.str "1970-01-01") = .ok f ∧ Value.equal (.float f) (.int 0) = true ∧
        isoOf (.float f) = .ok "1970-01-01" := by
  obtain ⟨writes, -⟩ := iso_unix_round_trip.1 0 (by decide)
  obtain ⟨f, reads, equal, back⟩ :=
    iso_unix_round_trip.2 ⟨⟨1970, 1, 1⟩, by decide, by decide, none⟩ (by decide +kernel) (by decide +kernel)
  have text : Stamp.text ⟨⟨1970, 1, 1⟩, by decide, by decide, none⟩ = "1970-01-01" := by decide +kernel
  have seconds : Stamp.utcSeconds ⟨⟨1970, 1, 1⟩, by decide, by decide, none⟩ = 0 := by decide +kernel
  have written : (utcStamp 0 (by decide)).text = "1970-01-01" := by decide +kernel
  rw [text] at reads
  simp only [seconds, written] at equal back
  rw [written] at writes
  exact ⟨writes, f, reads, equal, back⟩

end Dashwright.Time
