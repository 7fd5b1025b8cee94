import Dashwright.Time.Civil

/-!
Days and dates of the proleptic Gregorian calendar. A day of a 400-year era, counted from
1 March, splits into its century, its four-year cycle, its year in the cycle and its day in the
year (`EraSplit`). The year of the era that `Date.ofDays` computes by its formula is the one of
that split (`yearOfEra_eq`), and from it: `ofDays` gives a valid date (`ofDays_isValid`) from
which `toDays` counts back the same day (`toDays_ofDays`).
-/

namespace Dashwright.Date

/-- A day of an era as its century, its four-year cycle, its year in the cycle and its day in
the year, all counted from 1 March of the era's first year. The day after the last year of a
cycle is its leap day, which the last cycle of a century has only in the last century. -/
structure EraSplit (doe : Int) where
  century : Int
  cycle : Int
  year : Int
  day : Int
  eq : doe = 36524 * century + 1461 * cycle + 365 * year + day
  centuryRange : 0 ≤ century ∧ century ≤ 3
  cycleRange : 0 ≤ cycle ∧ cycle ≤ 24
  yearRange : 0 ≤ year ∧ year ≤ 3
  dayRange : 0 ≤ day ∧ day ≤ 365
  leapDay : day = 365 → year = 3
  shortCentury : century < 3 → cycle = 24 → 365 * year + day ≤ 1459

def EraSplit.of (doe : Int) (low : 0 ≤ doe) (high : doe < 146097) : EraSplit doe :=
  let century := min (doe / 36524) 3
  let cycle := (doe - 36524 * century) / 1461
  let year := min ((doe - 36524 * century - 1461 * cycle) / 365) 3
  { century, cycle, year
    day := doe - 36524 * century - 1461 * cycle - 365 * year
    eq := by omega
    centuryRange := by omega
    cycleRange := by omega
    yearRange := by omega
    dayRange := by omega
    leapDay := by omega
    shortCentury := by omega }

variable {doe : Int}

namespace EraSplit

/-- The year of the era: a hundred per century, four per cycle. -/
def yearOfEra (s : EraSplit doe) : Int := 100 * s.century + 4 * s.cycle + s.year

theorem yearOfEra_range (s : EraSplit doe) : 0 ≤ s.yearOfEra ∧ s.yearOfEra ≤ 399 := by
  have := s.centuryRange; have := s.cycleRange; have := s.yearRange
  unfold yearOfEra
  omega

theorem daysBefore (s : EraSplit doe) :
    365 * s.yearOfEra + s.yearOfEra / 4 - s.yearOfEra / 100 = doe - s.day := by
  have := s.centuryRange; have := s.cycleRange; have := s.yearRange; have := s.eq
  have quarter : s.yearOfEra / 4 = 25 * s.century + s.cycle := by unfold yearOfEra; omega
  have hundredth : s.yearOfEra / 100 = s.century := by unfold yearOfEra; omega
  rw [quarter, hundredth]
  unfold yearOfEra
  omega

end EraSplit

theorem yearOfEra_eq (s : EraSplit doe) :
    (doe - doe / 1460 + doe / 36524 - doe / 146096) / 365 = s.yearOfEra := by
  unfold EraSplit.yearOfEra
  obtain ⟨c, q, y, d, rfl, _, _, _, _, leap, short⟩ := s
  dsimp only
  by_cases last : c = 3 ∧ q = 24 ∧ y = 3 ∧ d = 365
  · obtain ⟨rfl, rfl, rfl, rfl⟩ := last
    decide
  · -- below the era's last day, the days before the century and the cycles are whole
    have era : (36524 * c + 1461 * q + 365 * y + d) / 146096 = 0 := by omega
    have century : (36524 * c + 1461 * q + 365 * y + d) / 36524 = c := by omega
    by_cases beyond : 1460 ≤ 24 * c + q + 365 * y + d
    · have cycles : (36524 * c + 1461 * q + 365 * y + d) / 1460 = 25 * c + q + 1 := by omega
      omega
    · have cycles : (36524 * c + 1461 * q + 365 * y + d) / 1460 = 25 * c + q := by omega
      omega

namespace EraSplit

theorem doe_range (s : EraSplit doe) : 0 ≤ doe ∧ doe < 146097 := by
  have := s.centuryRange; have := s.cycleRange; have := s.yearRange; have := s.dayRange
  have := s.eq; have := s.shortCentury
  omega

theorem dayOfYear_eq (s : EraSplit doe) :
    doe - (365 * s.yearOfEra + s.yearOfEra / 4 - s.yearOfEra / 100) = s.day := by
  rw [s.daysBefore]
  omega

/-- The month of the year counted from March, by the pattern of 153 days every five months. -/
def monthFromMarch (s : EraSplit doe) : Int := (5 * s.day + 2) / 153

theorem monthFromMarch_range (s : EraSplit doe) : 0 ≤ s.monthFromMarch ∧ s.monthFromMarch ≤ 11 := by
  have := s.dayRange
  unfold monthFromMarch
  omega

end EraSplit

/-- The date of a day of an era, from the split of the day. -/
def civilOf (era : Int) (s : EraSplit doe) : Date :=
  let mp := s.monthFromMarch
  let m : Int := if mp < 10 then mp + 3 else mp - 9
  { year := if m ≤ 2 then s.yearOfEra + era * 400 + 1 else s.yearOfEra + era * 400
    month := m.toNat
    day := (s.day - (153 * mp + 2) / 5 + 1).toNat }

theorem ofDays_eq_civilOf {z era : Int} (s : EraSplit doe) (after : 0 ≤ era)
    (days : z + 719468 = era * 146097 + doe) : ofDays z = civilOf era s := by
  have := s.doe_range
  have eraOf : (if z + 719468 ≥ 0 then z + 719468 else z + 719468 - 146096) / 146097 = era := by
    rw [if_pos (by omega)]
    omega
  have doeOf : z + 719468 - era * 146097 = doe := by omega
  unfold ofDays civilOf EraSplit.monthFromMarch
  simp only [eraOf, doeOf, yearOfEra_eq s, s.dayOfYear_eq]

theorem civilOf_day (era : Int) (s : EraSplit doe) :
    ((civilOf era s).day : Int) = s.day - (153 * s.monthFromMarch + 2) / 5 + 1 := by
  have := s.dayRange
  have : (153 * s.monthFromMarch + 2) / 5 ≤ s.day := by unfold EraSplit.monthFromMarch; omega
  simp only [civilOf]
  omega

theorem civilOf_of_early (era : Int) (s : EraSplit doe) (early : s.monthFromMarch < 10) :
    ((civilOf era s).month : Int) = s.monthFromMarch + 3 ∧
      (civilOf era s).year = s.yearOfEra + era * 400 := by
  have := s.monthFromMarch_range
  simp only [civilOf, early, if_true]
  constructor
  · omega
  · rw [if_neg (show ¬ s.monthFromMarch + 3 ≤ 2 by omega)]

theorem civilOf_of_late (era : Int) (s : EraSplit doe) (late : ¬ s.monthFromMarch < 10) :
    ((civilOf era s).month : Int) = s.monthFromMarch - 9 ∧
      (civilOf era s).year = s.yearOfEra + era * 400 + 1 := by
  have := s.monthFromMarch_range
  simp only [civilOf, late, if_false]
  constructor
  · omega
  · rw [if_pos (show s.monthFromMarch - 9 ≤ 2 by omega)]

theorem toDays_civilOf (era : Int) (s : EraSplit doe) (after : 0 ≤ era) :
    (civilOf era s).toDays = era * 146097 + doe - 719468 := by
  have := s.yearOfEra_range; have := s.monthFromMarch_range; have := s.daysBefore
  have day := civilOf_day era s
  unfold toDays
  dsimp only
  by_cases early : s.monthFromMarch < 10
  · obtain ⟨month, year⟩ := civilOf_of_early era s early
    rw [if_neg (show ¬ (civilOf era s).month ≤ 2 by omega), year]
    omega
  · obtain ⟨month, year⟩ := civilOf_of_late era s early
    rw [if_pos (show (civilOf era s).month ≤ 2 by omega), year]
    omega

theorem daysInMonth_le (y : Int) (m : Nat) : daysInMonth y m ≤ 31 := by
  unfold daysInMonth
  split <;> (try split) <;> omega

theorem daysInMonth_of_pattern (y : Int) {mp : Int} (low : 0 ≤ mp) (notFebruary : mp < 11) :
    (daysInMonth y (if mp < 10 then mp + 3 else mp - 9).toNat : Int) =
      (153 * (mp + 1) + 2) / 5 - (153 * mp + 2) / 5 := by
  have : mp = 0 ∨ mp = 1 ∨ mp = 2 ∨ mp = 3 ∨ mp = 4 ∨ mp = 5 ∨ mp = 6 ∨ mp = 7 ∨ mp = 8 ∨
    mp = 9 ∨ mp = 10 := by omega
  rcases this with rfl | rfl | rfl | rfl | rfl | rfl | rfl | rfl | rfl | rfl | rfl <;> rfl

theorem isLeapYear_of_leapDay (era : Int) (s : EraSplit doe) (last : s.day = 365) :
    isLeapYear (s.yearOfEra + era * 400 + 1) = true := by
  have := s.centuryRange; have := s.cycleRange
  have three := s.leapDay last
  have short := s.shortCentury
  unfold EraSplit.yearOfEra isLeapYear
  simp only [Bool.or_eq_true, Bool.and_eq_true, beq_iff_eq, bne_iff_ne, ne_eq]
  omega

theorem civilOf_month (era : Int) (s : EraSplit doe) :
    (civilOf era s).month =
      (if s.monthFromMarch < 10 then s.monthFromMarch + 3 else s.monthFromMarch - 9).toNat := rfl

theorem civilOf_isValid (era : Int) (s : EraSplit doe) : (civilOf era s).isValid = true := by
  have := s.monthFromMarch_range; have := s.dayRange
  have day := civilOf_day era s
  have monthBounds : (153 * s.monthFromMarch + 2) / 5 ≤ s.day ∧
      5 * s.day + 2 < 153 * (s.monthFromMarch + 1) := by
    unfold EraSplit.monthFromMarch
    omega
  unfold isValid
  simp only [Bool.and_eq_true, decide_eq_true_eq]
  by_cases february : s.monthFromMarch = 11
  · -- 28 days, and a 29th on the era's leap day
    obtain ⟨month, year⟩ := civilOf_of_late era s (by omega)
    have two : (civilOf era s).month = 2 := by omega
    have length : daysInMonth (civilOf era s).year 2 =
        if isLeapYear (civilOf era s).year then 29 else 28 := rfl
    rw [two, length, year]
    by_cases last : s.day = 365
    · rw [isLeapYear_of_leapDay era s last, if_pos rfl]
      omega
    · have : (if isLeapYear (s.yearOfEra + era * 400 + 1) then 29 else 28) ≥ 28 := by
        split <;> omega
      omega
  · have pattern := daysInMonth_of_pattern (civilOf era s).year (by omega : 0 ≤ s.monthFromMarch)
      (by omega)
    rw [← civilOf_month era s] at pattern
    have month : 1 ≤ (civilOf era s).month ∧ (civilOf era s).month ≤ 12 := by
      rw [civilOf_month]
      split <;> omega
    omega

/-- The split of the day of its era of a day on or after 1 March of year 0. -/
def eraSplitOf (z : Int) : EraSplit ((z + 719468) % 146097) :=
  EraSplit.of _ (Int.emod_nonneg _ (by decide)) (Int.emod_lt_of_pos _ (by decide))

theorem ofDays_eq_civilOf_eraSplitOf (z : Int) (after : -719468 ≤ z) :
    ofDays z = civilOf ((z + 719468) / 146097) (eraSplitOf z) :=
  ofDays_eq_civilOf _ (Int.ediv_nonneg (by omega) (by decide)) (by omega)

/-- Counting the days of the date of a day gives the day back. -/
theorem toDays_ofDays (z : Int) (after : -719468 ≤ z) : (ofDays z).toDays = z := by
  rw [ofDays_eq_civilOf_eraSplitOf z after, toDays_civilOf _ _ (Int.ediv_nonneg (by omega) (by decide))]
  omega

theorem ofDays_isValid (z : Int) (after : -719468 ≤ z) : (ofDays z).isValid = true := by
  rw [ofDays_eq_civilOf_eraSplitOf z after]
  exact civilOf_isValid _ _

theorem ofDays_year (z : Int) (low : -719162 ≤ z) (high : z ≤ 2932896) :
    1 ≤ (ofDays z).year ∧ (ofDays z).year ≤ 9999 := by
  have after : -719468 ≤ z := by omega
  let s := eraSplitOf z
  have := s.yearOfEra_range; have := s.daysBefore; have := s.dayRange
  have monthBounds : 5 * s.day + 2 < 153 * (s.monthFromMarch + 1) ∧
      153 * s.monthFromMarch ≤ 5 * s.day + 2 := by
    unfold EraSplit.monthFromMarch
    omega
  rw [ofDays_eq_civilOf_eraSplitOf z after]
  by_cases early : s.monthFromMarch < 10
  · rw [(civilOf_of_early _ s early).2]
    omega
  · rw [(civilOf_of_late _ s early).2]
    omega

end Dashwright.Date
