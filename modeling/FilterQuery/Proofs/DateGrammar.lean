/-
The grammar of dates.

A text is found to be a date by taking its parts off the front and looking at each. What a date is can
be said without reading: a day `YYYY-MM-DD` that exists, alone or followed by `T` or a blank, a time
`HH:MM` with perhaps seconds and perhaps a fraction of them, and perhaps the distance of that time
from universal time. `Written` says it so, and a text is found to be a date exactly when it is written
like one (`isDate_iff`).

The calendar is said in the same way. `DayOf` lists the months by their lengths and the one day that
only leap years have, and leap years are told by divisibility.

Two things have to be seen in the parts. The seconds, their fraction and the distance may be missing,
so reading has to go on where they are: none of them begins with what could go on a part before it.
And the colon in a distance may be missing, which makes no part ambiguous because its numbers have
two digits each.
-/
import FilterQuery.Calendar

set_option autoImplicit false

namespace FilterQuery.Calendar

open FilterQuery.Text

/-! ## The calendar -/

/-- The years of 366 days: every fourth year, and of the last years of the centuries every fourth. -/
def LeapYear (year : Nat) : Prop :=
  4 ∣ year ∧ (100 ∣ year → 400 ∣ year)

/-- The days of a year, by the numbers of their month and of the day in it. -/
inductive DayOf (year : Nat) : Nat → Nat → Prop
  | long {month day : Nat} (hmonth : month ∈ [1, 3, 5, 7, 8, 10, 12]) (hfirst : 1 ≤ day)
      (hlast : day ≤ 31) : DayOf year month day
  | short {month day : Nat} (hmonth : month ∈ [4, 6, 9, 11]) (hfirst : 1 ≤ day)
      (hlast : day ≤ 30) : DayOf year month day
  | february {day : Nat} (hfirst : 1 ≤ day) (hlast : day ≤ 28) : DayOf year 2 day
  | leapDay (hleap : LeapYear year) : DayOf year 2 29

theorem isLeapYear_iff {year : Nat} : isLeapYear year = true ↔ LeapYear year := by
  rw [isLeapYear, LeapYear, Bool.and_eq_true, Bool.or_eq_true, beq_iff_eq, bne_iff_ne, beq_iff_eq,
    Nat.dvd_iff_mod_eq_zero, Nat.dvd_iff_mod_eq_zero, Nat.dvd_iff_mod_eq_zero]
  omega

theorem daysInMonth_long {month : Nat} (year : Nat) (hmonth : month ∈ [1, 3, 5, 7, 8, 10, 12]) :
    daysInMonth year month = 31 := by
  simp only [List.mem_cons, List.not_mem_nil, or_false] at hmonth
  rcases hmonth with rfl | rfl | rfl | rfl | rfl | rfl | rfl <;> rfl

theorem daysInMonth_short {month : Nat} (year : Nat) (hmonth : month ∈ [4, 6, 9, 11]) :
    daysInMonth year month = 30 := by
  simp only [List.mem_cons, List.not_mem_nil, or_false] at hmonth
  rcases hmonth with rfl | rfl | rfl | rfl <;> rfl

theorem daysInMonth_february (year : Nat) :
    daysInMonth year 2 = if isLeapYear year then 29 else 28 := rfl

/-- There are twelve months. -/
theorem month_cases {year month : Nat} (h : 1 ≤ daysInMonth year month) :
    month ∈ [1, 3, 5, 7, 8, 10, 12] ∨ month ∈ [4, 6, 9, 11] ∨ month = 2 := by
  rw [daysInMonth] at h
  split at h
  · next hmonth => exact .inr (.inr hmonth)
  · next hother =>
      split at h
      · next hshort => exact .inr (.inl (by simpa using hshort))
      · next hlong =>
          split at h
          · next hrange =>
              -- of the twelve, what is neither short nor February
              left
              simp only [Bool.and_eq_true, decide_eq_true_eq] at hrange
              simp only [List.contains_iff_mem, List.mem_cons, List.not_mem_nil, or_false] at hlong ⊢
              omega
          · omega

/-- **The days that the calendar knows are the days of the year.** -/
theorem isDay_iff {year month day : Nat} :
    isDay year month day = true ↔ 1 ≤ year ∧ DayOf year month day := by
  rw [isDay, Bool.and_eq_true, Bool.and_eq_true, decide_eq_true_eq, decide_eq_true_eq,
    decide_eq_true_eq, and_assoc]
  refine and_congr_right fun _ => ?_
  constructor
  · rintro ⟨hfirst, hlast⟩
    rcases month_cases (Nat.le_trans hfirst hlast) with hlong | hshort | rfl
    · exact .long hlong hfirst (daysInMonth_long year hlong ▸ hlast)
    · exact .short hshort hfirst (daysInMonth_short year hshort ▸ hlast)
    · by_cases hday : day ≤ 28
      · exact .february hfirst hday
      · -- only the leap day is left
        rw [daysInMonth_february] at hlast
        split at hlast
        · next hleap =>
            have hlast29 : day = 29 := by omega
            subst hlast29
            exact .leapDay (isLeapYear_iff.1 hleap)
        · omega
  · intro hday
    cases hday with
    | long hmonth hfirst hlast => exact ⟨hfirst, (daysInMonth_long year hmonth).symm ▸ hlast⟩
    | short hmonth hfirst hlast => exact ⟨hfirst, (daysInMonth_short year hmonth).symm ▸ hlast⟩
    | february hfirst hlast =>
        refine ⟨hfirst, ?_⟩
        rw [daysInMonth_february]
        split <;> omega
    | leapDay hleap =>
        rw [daysInMonth_february, if_pos (isLeapYear_iff.2 hleap)]
        decide

/-! ## The parts of a date -/

/-- So many digits of ASCII, with the number they denote. -/
def Figures (width : Nat) (row : List Char) (value : Nat) : Prop :=
  row.length = width ∧ (∀ c ∈ row, isAsciiDigit c = true) ∧ value = ofDigits (row.map asciiDigitValue)

/-- A day that exists, written `YYYY-MM-DD`. -/
inductive Day : List Char → Prop
  | mk {y m d : List Char} {year month day : Nat} (hyear : Figures 4 y year)
      (hmonth : Figures 2 m month) (hday : Figures 2 d day) (hfirst : 1 ≤ year)
      (hexists : DayOf year month day) : Day (y ++ '-' :: (m ++ '-' :: d))

/-- A fraction of a second, a point and one to six digits, that may be missing. -/
inductive Fraction : List Char → Prop
  | absent : Fraction []
  | pointed {row : List Char} (hdigits : ∀ c ∈ row, isAsciiDigit c = true) (hfirst : 1 ≤ row.length)
      (hlast : row.length ≤ 6) : Fraction ('.' :: row)

/-- The seconds of a time, a colon and two digits and perhaps a fraction, that may be missing. -/
inductive Seconds : List Char → Nat → Prop
  | absent : Seconds [] 0
  | present {row fraction : List Char} {second : Nat} (hsecond : Figures 2 row second)
      (hfraction : Fraction fraction) : Seconds (':' :: (row ++ fraction)) second

/-- A time that exists on the clock, written `HH:MM`, perhaps with seconds. -/
inductive Clock : List Char → Prop
  | mk {h m s : List Char} {hour minute second : Nat} (hhour : Figures 2 h hour)
      (hminute : Figures 2 m minute) (hsecond : Seconds s second) (hhours : hour ≤ 23)
      (hminutes : minute ≤ 59) (hseconds : second ≤ 59) : Clock (h ++ ':' :: (m ++ s))

/-- A distance in hours and minutes of less than a day, written `HH:MM` or `HHMM`. -/
inductive Offset : List Char → Prop
  | mk {h colon m : List Char} {hours minutes : Nat} (hhours : Figures 2 h hours)
      (hcolon : colon = [] ∨ colon = [':']) (hminutes : Figures 2 m minutes)
      (hday : hours * 60 + minutes < 24 * 60) : Offset (h ++ (colon ++ m))

/-- A distance from universal time, `Z` or a signed one, that may be missing. -/
inductive Zone : List Char → Prop
  | absent : Zone []
  | universal : Zone ['Z']
  | signed {sign : Char} {offset : List Char} (hsign : sign = '+' ∨ sign = '-')
      (hoffset : Offset offset) : Zone (sign :: offset)

/-- A text that is a date: a day, perhaps with a time and the distance of that time. -/
inductive Written : List Char → Prop
  | day {d : List Char} (hday : Day d) : Written d
  | time {d clock zone : List Char} {mark : Char} (hday : Day d) (hmark : mark = 'T' ∨ mark = ' ')
      (hclock : Clock clock) (hzone : Zone zone) : Written (d ++ mark :: (clock ++ zone))

/-! ## Numbers and single characters -/

theorem takeNumber_eq_some_iff {width value : Nat} {s rest : List Char} :
    takeNumber width s = some (value, rest) ↔ ∃ row, s = row ++ rest ∧ Figures width row value := by
  rw [takeNumber]
  constructor
  · intro h
    split at h
    · next hrow =>
        rw [Bool.and_eq_true, decide_eq_true_eq, List.all_eq_true] at hrow
        cases h
        exact ⟨s.take width, (List.take_append_drop width s).symm, hrow.1, hrow.2, rfl⟩
    · cases h
  · rintro ⟨row, rfl, rfl, hdigits, rfl⟩
    rw [List.take_left, List.drop_left, if_pos]
    rw [Bool.and_eq_true, decide_eq_true_eq, List.all_eq_true]
    exact ⟨rfl, hdigits⟩

theorem takeChar_eq_some_iff {c : Char} {s rest : List Char} :
    takeChar c s = some rest ↔ s = c :: rest := by
  cases s with
  | nil => simp [takeChar]
  | cons d tail =>
      rw [takeChar]
      split
      · next h => simp [h]
      · next h => simp [h]

/-! ## Days -/

/-- **A day is read exactly where one is written.** -/
theorem takeDay_eq_some_iff {s rest : List Char} :
    takeDay s = some rest ↔ ∃ day, s = day ++ rest ∧ Day day := by
  simp only [takeDay, Option.bind_eq_bind, Option.bind_eq_some_iff, Prod.exists,
    takeNumber_eq_some_iff, takeChar_eq_some_iff]
  constructor
  · rintro ⟨year, _, ⟨y, rfl, hyear⟩, _, rfl, month, _, ⟨m, rfl, hmonth⟩, _, rfl, day, behind,
      ⟨d, rfl, hday⟩, h⟩
    split at h
    · next hexists =>
        cases h
        obtain ⟨hfirst, hof⟩ := isDay_iff.1 hexists
        exact ⟨y ++ '-' :: (m ++ '-' :: d), by simp, .mk hyear hmonth hday hfirst hof⟩
    · cases h
  · rintro ⟨_, rfl, @⟨y, m, d, year, month, day, hyear, hmonth, hday, hfirst, hof⟩⟩
    refine ⟨year, '-' :: (m ++ '-' :: (d ++ rest)), ⟨y, by simp, hyear⟩, m ++ '-' :: (d ++ rest),
      rfl, month, '-' :: (d ++ rest), ⟨m, rfl, hmonth⟩, d ++ rest, rfl, day, rest, ⟨d, rfl, hday⟩, ?_⟩
    exact if_pos (isDay_iff.2 ⟨hfirst, hof⟩)

/-! ## Times -/

/-- What may follow a time for it to end there: nothing that could go on a number or a part. -/
def EndsTime (rest : List Char) : Prop :=
  ∀ c ∈ rest.head?, isAsciiDigit c = false ∧ c ≠ ':' ∧ c ≠ '.'

/-- A row of digits is the longest one if no digit follows it. -/
theorem takeWhile_append {row rest : List Char} (hdigits : ∀ c ∈ row, isAsciiDigit c = true)
    (hrest : EndsTime rest) : (row ++ rest).takeWhile isAsciiDigit = row := by
  rw [List.takeWhile_append_of_pos hdigits]
  cases rest with
  | nil => simp
  | cons c rest =>
      rw [List.takeWhile_cons, (hrest c rfl).1, if_neg Bool.false_ne_true, List.append_nil]

theorem exists_fraction {s rest : List Char} (h : takeFraction s = some rest) :
    ∃ fraction, s = fraction ++ rest ∧ Fraction fraction := by
  rw [takeFraction.eq_def] at h
  split at h
  · next tail =>
      dsimp only at h
      split at h
      · next hlength =>
          rw [Bool.and_eq_true, decide_eq_true_eq, decide_eq_true_eq] at hlength
          cases h
          have hdigits : ∀ c ∈ tail.takeWhile isAsciiDigit, isAsciiDigit c = true :=
            List.all_eq_true.1 List.all_takeWhile
          have hsplit := List.prefix_iff_eq_append.1 (List.takeWhile_prefix isAsciiDigit (l := tail))
          exact ⟨'.' :: tail.takeWhile isAsciiDigit, congrArg ('.' :: ·) hsplit.symm,
            .pointed hdigits hlength.1 hlength.2⟩
      · cases h
  · cases h
    exact ⟨[], rfl, .absent⟩

theorem Fraction.takeFraction_append {fraction : List Char} (hfraction : Fraction fraction)
    {rest : List Char} (hrest : EndsTime rest) : takeFraction (fraction ++ rest) = some rest := by
  cases hfraction with
  | absent =>
      rw [List.nil_append, takeFraction.eq_def]
      split
      · exact absurd rfl (hrest '.' rfl).2.2
      · rfl
  | @pointed row hdigits hfirst hlast =>
      rw [List.cons_append, takeFraction, takeWhile_append hdigits hrest,
        if_pos (by simp [hfirst, hlast]), List.drop_left]

theorem exists_seconds {s rest : List Char} {second : Nat} (h : takeSeconds s = some (second, rest)) :
    ∃ seconds, s = seconds ++ rest ∧ Seconds seconds second := by
  rw [takeSeconds.eq_def] at h
  split at h
  · next tail =>
      simp only [Option.bind_eq_bind, Option.bind_eq_some_iff, Prod.exists,
        takeNumber_eq_some_iff] at h
      obtain ⟨value, behind, ⟨row, rfl, hsecond⟩, last, hfraction, heq⟩ := h
      cases heq
      obtain ⟨fraction, rfl, hwritten⟩ := exists_fraction hfraction
      exact ⟨':' :: (row ++ fraction), by simp, .present hsecond hwritten⟩
  · cases h
    exact ⟨[], rfl, .absent⟩

theorem Seconds.takeSeconds_append {seconds : List Char} {second : Nat}
    (hseconds : Seconds seconds second) {rest : List Char} (hrest : EndsTime rest) :
    takeSeconds (seconds ++ rest) = some (second, rest) := by
  cases hseconds with
  | absent =>
      rw [List.nil_append, takeSeconds.eq_def]
      split
      · exact absurd rfl (hrest ':' rfl).2.1
      · rfl
  | @present row fraction _ hsecond hfraction =>
      have hrow : takeNumber 2 (row ++ (fraction ++ rest)) = some (second, fraction ++ rest) :=
        takeNumber_eq_some_iff.2 ⟨row, rfl, hsecond⟩
      rw [List.cons_append, List.append_assoc, takeSeconds, hrow]
      simp only [Option.bind_eq_bind, Option.bind_some, hfraction.takeFraction_append hrest]

theorem isClockTime_iff {hour minute second : Nat} :
    isClockTime hour minute second = true ↔ hour ≤ 23 ∧ minute ≤ 59 ∧ second ≤ 59 := by
  rw [isClockTime, Bool.and_eq_true, Bool.and_eq_true, decide_eq_true_eq, decide_eq_true_eq,
    decide_eq_true_eq]
  omega

theorem exists_clock {s rest : List Char} (h : takeTime s = some rest) :
    ∃ clock, s = clock ++ rest ∧ Clock clock := by
  simp only [takeTime, Option.bind_eq_bind, Option.bind_eq_some_iff, Prod.exists,
    takeNumber_eq_some_iff, takeChar_eq_some_iff] at h
  obtain ⟨hour, _, ⟨h, rfl, hhour⟩, _, rfl, minute, _, ⟨m, rfl, hminute⟩, second, behind, htail,
    hexists⟩ := h
  split at hexists
  · next hclock =>
      cases hexists
      obtain ⟨hhours, hminutes, hseconds⟩ := isClockTime_iff.1 hclock
      obtain ⟨seconds, rfl, hsecond⟩ := exists_seconds htail
      exact ⟨h ++ ':' :: (m ++ seconds), by simp,
        .mk hhour hminute hsecond hhours hminutes hseconds⟩
  · cases hexists

theorem Clock.takeTime_append {clock : List Char} (hclock : Clock clock) {rest : List Char}
    (hrest : EndsTime rest) : takeTime (clock ++ rest) = some rest := by
  obtain @⟨h, m, s, hour, minute, second, hhour, hminute, hsecond, hhours, hminutes, hseconds⟩ :=
    hclock
  simp only [takeTime, Option.bind_eq_bind, Option.bind_eq_some_iff, Prod.exists,
    takeNumber_eq_some_iff, takeChar_eq_some_iff]
  refine ⟨hour, ':' :: (m ++ (s ++ rest)), ⟨h, by simp, hhour⟩, m ++ (s ++ rest), rfl, minute,
    s ++ rest, ⟨m, rfl, hminute⟩, second, rest, hsecond.takeSeconds_append hrest, ?_⟩
  exact if_pos (isClockTime_iff.2 ⟨hhours, hminutes, hseconds⟩)

/-! ## Distances from universal time -/

/-- A number does not begin with a colon. -/
theorem Figures.head?_ne_colon {width value : Nat} {row : List Char}
    (hrow : Figures width row value) (hwidth : 0 < width) : row.head? ≠ some ':' := by
  obtain ⟨rfl, hdigits, -⟩ := hrow
  cases row with
  | nil => exact absurd hwidth (Nat.lt_irrefl 0)
  | cons c row =>
      intro h
      cases h
      have hcolon : isAsciiDigit ':' = false := by decide
      rw [hdigits ':' List.mem_cons_self] at hcolon
      cases hcolon

theorem takeOffset_eq_some_nil_iff {s : List Char} : takeOffset s = some [] ↔ Offset s := by
  simp only [takeOffset, Option.bind_eq_bind, Option.bind_eq_some_iff, Prod.exists,
    takeNumber_eq_some_iff]
  constructor
  · rintro ⟨hours, behind, ⟨h, rfl, hhours⟩, minutes, last, ⟨m, hm, hminutes⟩, hexists⟩
    split at hexists
    · next hoffset =>
        cases hexists
        rw [isOffset, decide_eq_true_eq] at hoffset
        rw [List.append_nil] at hm
        split at hm
        · next hcolon =>
            obtain ⟨tail, rfl⟩ := List.head?_eq_some_iff.1 hcolon
            cases hm
            exact .mk hhours (.inr rfl) hminutes hoffset
        · cases hm
          exact .mk hhours (.inl rfl) hminutes hoffset
    · cases hexists
  · rintro @⟨h, colon, m, hours, minutes, hhours, hcolon, hminutes, hday⟩
    refine ⟨hours, colon ++ m, ⟨h, rfl, hhours⟩, minutes, [], ⟨m, ?_, hminutes⟩, ?_⟩
    · rw [List.append_nil]
      rcases hcolon with rfl | rfl
      · -- the minutes follow at once, and what they begin with is not taken for the colon
        exact if_neg (hminutes.head?_ne_colon (by decide))
      · rfl
    · exact if_pos (decide_eq_true hday)

/-- **A text is a zone exactly when it is written like one.** -/
theorem isZone_iff {s : List Char} : isZone s = true ↔ Zone s := by
  rw [isZone.eq_def]
  constructor
  · intro h
    split at h
    · exact .absent
    · exact .universal
    · rw [Bool.and_eq_true, Bool.or_eq_true, decide_eq_true_eq, decide_eq_true_eq, beq_iff_eq] at h
      exact .signed h.1 (takeOffset_eq_some_nil_iff.1 h.2)
  · intro h
    cases h with
    | absent => rfl
    | universal => rfl
    | signed hsign hoffset =>
        split
        · rfl
        · rfl
        · next heq =>
          cases heq
          rw [Bool.and_eq_true, Bool.or_eq_true, decide_eq_true_eq, decide_eq_true_eq, beq_iff_eq]
          exact ⟨hsign, takeOffset_eq_some_nil_iff.2 hoffset⟩

/-- A distance ends the time before it. -/
theorem Zone.endsTime {zone : List Char} (hzone : Zone zone) : EndsTime zone := by
  intro c hc
  cases hzone with
  | absent => cases hc
  | universal =>
      cases hc
      decide
  | signed hsign _ =>
      cases hc
      rcases hsign with rfl | rfl <;> decide

/-! ## Dates -/

theorem isTime_iff {s : List Char} :
    isTime s = true ↔ ∃ clock zone, s = clock ++ zone ∧ Clock clock ∧ Zone zone := by
  rw [isTime]
  constructor
  · intro h
    split at h
    · next rest htime =>
        obtain ⟨clock, rfl, hclock⟩ := exists_clock htime
        exact ⟨clock, rest, rfl, hclock, isZone_iff.1 h⟩
    · cases h
  · rintro ⟨clock, zone, rfl, hclock, hzone⟩
    rw [hclock.takeTime_append hzone.endsTime]
    exact isZone_iff.2 hzone

/-- **A text is found to be a date exactly when it is written like one.** -/
theorem isDate_iff {s : List Char} : isDate s = true ↔ Written s := by
  rw [isDate.eq_def]
  constructor
  · intro h
    split at h
    · next hday =>
        obtain ⟨day, rfl, hwritten⟩ := takeDay_eq_some_iff.1 hday
        rw [List.append_nil]
        exact .day hwritten
    · next mark rest hday =>
        obtain ⟨day, rfl, hwritten⟩ := takeDay_eq_some_iff.1 hday
        rw [Bool.and_eq_true, Bool.or_eq_true, decide_eq_true_eq, decide_eq_true_eq] at h
        obtain ⟨clock, zone, rfl, hclock, hzone⟩ := isTime_iff.1 h.2
        exact .time hwritten h.1 hclock hzone
    · cases h
  · intro h
    cases h with
    | day hday =>
        have htake := takeDay_eq_some_iff.2 ⟨s, (List.append_nil s).symm, hday⟩
        rw [htake]
    | @time d clock zone mark hday hmark hclock hzone =>
        have htake := takeDay_eq_some_iff.2 ⟨d, (rfl : d ++ mark :: (clock ++ zone) = _), hday⟩
        rw [htake]
        dsimp only
        rw [Bool.and_eq_true, Bool.or_eq_true, decide_eq_true_eq, decide_eq_true_eq]
        exact ⟨hmark, isTime_iff.2 ⟨clock, zone, rfl, hclock, hzone⟩⟩

end FilterQuery.Calendar
