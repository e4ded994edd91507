import RuneTerminal.Kit.FixedWidth
import Mathlib.Data.List.DropRight
import Mathlib.Data.String.Basic

/-! Instants are nanoseconds since the beginning of year 1 in UTC, formatted with nine digits of a
fraction or at `time.RFC3339Nano`, and read back by `time.Parse`. Texts compare as their instants up
to the year 9999, and at RFC 3339 only from second to second. -/

namespace RuneTerminal.Go.Time

open Kit List

def isLeap (year : Nat) : Bool :=
  year % 4 = 0 ∧ (year % 100 ≠ 0 ∨ year % 400 = 0)

def daysInYears (years : Nat) : Nat :=
  365 * years + years / 4 - years / 100 + years / 400

/-- `daysBefore`: the days of the first months of a year. -/
def daysBefore (leap : Bool) (months : Nat) : Nat :=
  [0, 31, 59, 90, 120, 151, 181, 212, 243, 273, 304, 334].getD months 365 +
    if leap ∧ 2 ≤ months then 1 else 0

def daysIn (month year : Nat) : Nat :=
  daysBefore (isLeap year) month - daysBefore (isLeap year) (month - 1)

structure Civil where
  year : Nat
  month : Nat
  day : Nat
  hour : Nat
  minute : Nat
  second : Nat
  nanosecond : Nat

def yearsBefore (days : Nat) : Nat :=
  lastMark daysInYears (days / 365) days

def yearDay (days : Nat) : Nat :=
  days - daysInYears (yearsBefore days)

def monthsBefore (leap : Bool) (yearDay : Nat) : Nat :=
  lastMark (daysBefore leap) 11 yearDay

def civil (instant : Nat) : Civil :=
  let seconds := instant / 1000000000
  let days := seconds / 86400
  let clock := seconds % 86400
  let year := yearsBefore days + 1
  let months := monthsBefore (isLeap year) (yearDay days)
  { year := year
    month := months + 1
    day := yearDay days - daysBefore (isLeap year) months + 1
    hour := clock / 3600
    minute := clock % 3600 / 60
    second := clock % 3600 % 60
    nanosecond := instant % 1000000000 }

/-- `Date` for a valid date and time of day. -/
def Civil.instant (c : Civil) : Nat :=
  ((daysInYears (c.year - 1) + daysBefore (isLeap c.year) (c.month - 1) + (c.day - 1)) * 86400 +
    (c.hour * 3600 + c.minute * 60 + c.second)) * 1000000000 + c.nanosecond

def Civil.fields (c : Civil) : List Nat :=
  [c.year, c.month, c.day, c.hour, c.minute, c.second]

section

theorem days_in_years_succ (years : Nat) :
    daysInYears (years + 1) = daysInYears years + daysBefore (isLeap (years + 1)) 12 := by
  have leap : daysBefore (isLeap (years + 1)) 12 =
      365 + if (years + 1) % 4 = 0 ∧ ((years + 1) % 100 ≠ 0 ∨ (years + 1) % 400 = 0) then 1
        else 0 := by
    simp [daysBefore, isLeap]
  rw [leap]
  unfold daysInYears
  simp only [Nat.succ_div (a := years), Nat.dvd_iff_mod_eq_zero]
  by_cases fourth : (years + 1) % 4 = 0
  · by_cases hundredth : (years + 1) % 100 = 0
    · by_cases century : (years + 1) % 400 = 0
      · simp only [fourth, hundredth, century, or_true, and_self]
        omega
      · simp only [fourth, hundredth, century, ne_eq, not_true_eq_false, or_self, and_false]
        omega
    · have notCentury : ¬(years + 1) % 400 = 0 := by omega
      simp only [fourth, hundredth, notCentury, if_false, ne_eq, not_false_eq_true, true_or,
        and_self]
      omega
  · have notHundredth : ¬(years + 1) % 100 = 0 := by omega
    have notCentury : ¬(years + 1) % 400 = 0 := by omega
    simp only [fourth, notHundredth, notCentury, false_and]
    omega

theorem days_in_years_monotone : Monotone daysInYears := by
  apply monotone_nat_of_le_succ
  intro years
  rw [days_in_years_succ]
  omega

theorem days_in_years_ge (years : Nat) : 365 * years ≤ daysInYears years := by
  unfold daysInYears
  omega

theorem days_before_monotone (leap : Bool) : Monotone (daysBefore leap) := by
  apply monotone_nat_of_le_succ
  intro months
  by_cases short : months < 12
  · have inYear : ∀ months < 12, daysBefore leap months ≤ daysBefore leap (months + 1) := by
      cases leap <;> decide
    exact inYear months short
  obtain ⟨others, rfl⟩ := Nat.exists_eq_add_of_le (not_lt.mp short)
  have same : 12 + others = others + 12 := by omega
  rw [same]
  simp [daysBefore]

theorem days_before_eleven (leap : Bool) (months : Nat) (inYear : months ≤ 11) :
    daysBefore leap (months + 1) ≤ daysBefore leap months + 31 := by
  have each : ∀ months < 12, daysBefore leap (months + 1) ≤ daysBefore leap months + 31 := by
    cases leap <;> decide
  exact each months (by omega)

variable {days other : Nat} {leap : Bool} {day otherDay : Nat}

theorem year_marks (days : Nat) :
    daysInYears (yearsBefore days) ≤ days ∧ days < daysInYears (yearsBefore days + 1) := by
  refine ⟨last_mark_le rfl _ _, last_mark_lt_next ?_⟩
  have enough := days_in_years_ge (days / 365 + 1)
  omega

theorem year_day_lt (days : Nat) :
    yearDay days < daysBefore (isLeap (yearsBefore days + 1)) 12 := by
  obtain ⟨le, lt⟩ := year_marks days
  rw [days_in_years_succ] at lt
  unfold yearDay
  omega

theorem month_marks (inYear : day < daysBefore leap 12) : daysBefore leap (monthsBefore leap day) ≤
    day ∧ day < daysBefore leap (monthsBefore leap day + 1) ∧ monthsBefore leap day ≤ 11 := by
  refine ⟨last_mark_le ?_ _ _, last_mark_lt_next inYear, last_mark_le_bound 11 day⟩
  simp [daysBefore]

theorem days_lt_iff : days < other ↔ yearsBefore days < yearsBefore other ∨
    yearsBefore days = yearsBefore other ∧ yearDay days < yearDay other :=
  lt_iff_of_marks days_in_years_monotone (year_marks days).1 (year_marks days).2
    (year_marks other).1 (year_marks other).2

theorem year_day_lt_iff (inYear : day < daysBefore leap 12)
    (otherInYear : otherDay < daysBefore leap 12) :
    day < otherDay ↔ monthsBefore leap day < monthsBefore leap otherDay ∨
      monthsBefore leap day = monthsBefore leap otherDay ∧
        day - daysBefore leap (monthsBefore leap day) <
          otherDay - daysBefore leap (monthsBefore leap otherDay) :=
  lt_iff_of_marks (days_before_monotone leap) (month_marks inYear).1 (month_marks inYear).2.1
    (month_marks otherInYear).1 (month_marks otherInYear).2.1

end

variable {t u : Nat}

theorem civil_month (t : Nat) : 1 ≤ (civil t).month ∧ (civil t).month ≤ 12 := by
  have month := (month_marks (year_day_lt (t / 1000000000 / 86400))).2.2
  unfold civil
  dsimp only
  omega

theorem civil_day (t : Nat) : 1 ≤ (civil t).day ∧
    (civil t).day ≤ daysIn (civil t).month (civil t).year ∧ (civil t).day ≤ 31 := by
  obtain ⟨le, lt, inYear⟩ := month_marks (year_day_lt (t / 1000000000 / 86400))
  have short := days_before_eleven (isLeap (yearsBefore (t / 1000000000 / 86400) + 1)) _ inYear
  unfold civil daysIn
  dsimp only
  rw [Nat.add_sub_cancel]
  omega

theorem civil_clock (t : Nat) : (civil t).hour < 24 ∧ (civil t).minute < 60 ∧
    (civil t).second < 60 ∧ (civil t).nanosecond < 1000000000 := by
  unfold civil
  dsimp only
  omega

theorem civil_instant (t : Nat) : (civil t).instant = t := by
  obtain ⟨monthStart, _, _⟩ := month_marks (year_day_lt (t / 1000000000 / 86400))
  have yearStart := (year_marks (t / 1000000000 / 86400)).1
  unfold Civil.instant civil
  simp only [Nat.add_sub_cancel]
  have days : daysInYears (yearsBefore (t / 1000000000 / 86400)) +
      yearDay (t / 1000000000 / 86400) = t / 1000000000 / 86400 := by
    unfold yearDay
    omega
  omega

def dateOf (days : Nat) : List Nat :=
  [yearsBefore days + 1, monthsBefore (isLeap (yearsBefore days + 1)) (yearDay days) + 1,
    yearDay days - daysBefore (isLeap (yearsBefore days + 1))
      (monthsBefore (isLeap (yearsBefore days + 1)) (yearDay days)) + 1]

def clockOf (clock : Nat) : List Nat :=
  [clock / 3600, clock % 3600 / 60, clock % 3600 % 60]

theorem civil_fields (t : Nat) : (civil t).fields =
    dateOf (t / 1000000000 / 86400) ++ clockOf (t / 1000000000 % 86400) :=
  rfl

theorem date_of_strict_mono : StrictMono dateOf := by
  intro days other less
  unfold dateOf
  simp only [cons_lt_cons_iff]
  rcases days_lt_iff.mp less with earlier | ⟨sameYear, laterDay⟩
  · omega
  have inYear := year_day_lt days
  have otherInYear := year_day_lt other
  rw [← sameYear] at otherInYear ⊢
  rcases (year_day_lt_iff inYear otherInYear).mp laterDay with earlier | ⟨sameMonth, earlier⟩
  · omega
  · omega

theorem clock_of_strict_mono : StrictMono clockOf := by
  intro clock other less
  unfold clockOf
  simp only [cons_lt_cons_iff]
  rcases (div_mod_lt_iff (by omega : 0 < 3600)).mp less with earlier | ⟨sameHour, later⟩
  · omega
  · rcases (div_mod_lt_iff (by omega : 0 < 60)).mp later with earlier | ⟨sameMinute, laterSecond⟩
    · omega
    · omega

theorem fields_lt_iff : (civil t).fields < (civil u).fields ↔ t / 1000000000 < u / 1000000000 := by
  have sameLength : (dateOf (t / 1000000000 / 86400)).length =
      (dateOf (u / 1000000000 / 86400)).length := rfl
  rw [civil_fields, civil_fields, append_lt_append_iff sameLength, date_of_strict_mono.lt_iff_lt,
    date_of_strict_mono.injective.eq_iff, clock_of_strict_mono.lt_iff_lt,
    div_mod_lt_iff (n := t / 1000000000) (m := u / 1000000000) (by omega : 0 < 86400)]

theorem fields_eq_iff : (civil t).fields = (civil u).fields ↔ t / 1000000000 = u / 1000000000 := by
  rw [le_antisymm_iff, le_antisymm_iff, ← not_lt, ← not_lt, fields_lt_iff, fields_lt_iff, not_lt,
    not_lt]

theorem civil_lt_iff : t < u ↔ (civil t).fields < (civil u).fields ∨ (civil t).fields =
    (civil u).fields ∧ (civil t).nanosecond < (civil u).nanosecond := by
  rw [fields_lt_iff, fields_eq_iff]
  exact div_mod_lt_iff (by omega)

def dateTime (c : Civil) : List Char :=
  appendInt 4 c.year ++ '-' :: (appendInt 2 c.month ++ '-' :: (appendInt 2 c.day ++ 'T' ::
    (appendInt 2 c.hour ++ ':' :: (appendInt 2 c.minute ++ ':' :: appendInt 2 c.second))))

def shortFraction (nanosecond : Nat) : List Char :=
  match ((pad 9 nanosecond).reverse.dropWhile (· == '0')).reverse with
  | [] => []
  | digits => '.' :: digits

/-- Format "2006-01-02T15:04:05.000000000Z07:00" of an instant in UTC. -/
def formatFixed (t : Nat) : String :=
  String.ofList (dateTime (civil t) ++ '.' :: (appendInt 9 (civil t).nanosecond ++ ['Z']))

/-- Format `time.RFC3339Nano` of an instant in UTC. -/
def formatRFC3339Nano (t : Nat) : String :=
  String.ofList (dateTime (civil t) ++ (shortFraction (civil t).nanosecond ++ ['Z']))

def dateTimeLayout : List (Nat × List Char) :=
  [(4, ['-']), (2, ['-']), (2, ['T']), (2, [':']), (2, [':']), (2, [])]

variable {n : Nat}

section

section

variable (fourDigits : (civil t).year < 10000)
include fourDigits

theorem fits_date_time : Fits dateTimeLayout (civil t).fields := by
  have month := civil_month t
  have day := civil_day t
  have clock := civil_clock t
  unfold Fits dateTimeLayout Civil.fields
  simp only [forall₂_cons, List.Forall₂.nil, and_true]
  omega

theorem date_time_eq_record : dateTime (civil t) = record dateTimeLayout (civil t).fields := by
  have month := civil_month t
  have day := civil_day t
  have clock := civil_clock t
  unfold dateTime record dateTimeLayout Civil.fields
  rw [append_int_pad (by omega) (by omega : (civil t).year < 10 ^ 4), append_int_pad (by
    omega) (by omega : (civil t).month < 10 ^ 2), append_int_pad (by omega) (by omega : (civil
    t).day < 10 ^ 2), append_int_pad (by omega) (by omega : (civil t).hour < 10 ^ 2),
    append_int_pad (by omega) (by omega : (civil t).minute < 10 ^ 2), append_int_pad (by
    omega) (by omega : (civil t).second < 10 ^ 2)]
  simp [record]

section

variable (fourDigitsOther : (civil u).year < 10000)
include fourDigitsOther

theorem format_fixed_lt_iff : formatFixed t < formatFixed u ↔ t < u := by
  have fraction := (civil_clock t).2.2.2
  have fractionOther := (civil_clock u).2.2.2
  have tails : '.' :: (pad 9 (civil t).nanosecond ++ ['Z']) <
        '.' :: (pad 9 (civil u).nanosecond ++ ['Z']) ↔
      (civil t).nanosecond < (civil u).nanosecond := by
    rw [cons_lt_cons_self, append_lt_append_iff (by rw [pad_length, pad_length]),
      pad_lt_iff (by omega) (by omega)]
    simp
  unfold formatFixed
  rw [String.lt_iff, String.toList_ofList, String.toList_ofList, append_int_pad (by omega) (by
    omega : (civil t).nanosecond < 10 ^ 9), append_int_pad (by omega) (by omega : (civil
    u).nanosecond < 10 ^ 9), date_time_eq_record fourDigits, date_time_eq_record fourDigitsOther,
    record_lt_iff (fits_date_time fourDigits) (fits_date_time fourDigitsOther), tails, ←
    civil_lt_iff]

theorem format_fixed_inj : formatFixed t = formatFixed u ↔ t = u := by
  rw [le_antisymm_iff, le_antisymm_iff, ← not_lt, ← not_lt, format_fixed_lt_iff fourDigits
    fourDigitsOther, format_fixed_lt_iff fourDigitsOther fourDigits, not_lt, not_lt]

theorem format_rfc3339_nano_lt_iff :
    formatRFC3339Nano t < formatRFC3339Nano u ↔
    t / 1000000000 < u / 1000000000 ∨
      t / 1000000000 = u / 1000000000 ∧
        shortFraction (civil t).nanosecond ++ ['Z'] <
          shortFraction (civil u).nanosecond ++ ['Z'] := by
  unfold formatRFC3339Nano
  rw [String.lt_iff, String.toList_ofList, String.toList_ofList, date_time_eq_record fourDigits,
    date_time_eq_record fourDigitsOther, record_lt_iff (fits_date_time fourDigits) (fits_date_time
    fourDigitsOther), fields_lt_iff, fields_eq_iff]

end

end

theorem short_fraction_digits (nanosecond : Nat) :
    ∃ digits fewer, pad 9 nanosecond = digits ++ List.replicate fewer '0' ∧
    shortFraction nanosecond = if digits = [] then [] else '.' :: digits := by
  refine ⟨(pad 9 nanosecond).rdropWhile (· == '0'),
    ((pad 9 nanosecond).rtakeWhile (· == '0')).length, ?_, ?_⟩
  · have zeros : (pad 9 nanosecond).rtakeWhile (· == '0') =
        replicate ((pad 9 nanosecond).rtakeWhile (· == '0')).length '0' := by
      rw [eq_replicate_iff]
      exact ⟨rfl, fun char mem => by simpa using mem_rtakeWhile_imp mem⟩
    calc pad 9 nanosecond
        = (pad 9 nanosecond).rdropWhile (· == '0') ++ (pad 9 nanosecond).rtakeWhile (· == '0') :=
          rdropWhile_append_rtakeWhile.symm
      _ = _ := congrArg _ zeros
  · change (match (pad 9 nanosecond).rdropWhile (· == '0') with
      | [] => []
      | digits => '.' :: digits) = _
    cases (pad 9 nanosecond).rdropWhile (· == '0') <;> rfl

theorem short_fraction_lt_iff {m : Nat} (small : n < 1000000000) (smallOther : m < 1000000000)
    (less : n < m) :
    (shortFraction n ++ ['Z'] < shortFraction m ++ ['Z'] ↔
      ¬shortFraction n <+: shortFraction m) ∧
    (shortFraction m ++ ['Z'] < shortFraction n ++ ['Z'] ↔
      shortFraction n <+: shortFraction m) := by
  obtain ⟨digits, fewer, whole, isShort⟩ := short_fraction_digits n
  obtain ⟨others, more, wholeOther, isShortOther⟩ := short_fraction_digits m
  have least : ∀ char ∈ digits, '0' ≤ char := by
    intro char mem
    have digit : isDigit char = true := pad_digits (whole ▸ mem_append_left _ mem)
    simp only [isDigit, decide_eq_true_eq] at digit
    exact digit.1
  have greatest : ∀ char ∈ others, char < 'Z' := by
    intro char mem
    have digit : isDigit char = true := pad_digits (wholeOther ▸ mem_append_left _ mem)
    simp only [isDigit, decide_eq_true_eq] at digit
    exact lt_of_le_of_lt digit.2 (by decide)
  have lengths : digits.length + fewer = others.length + more := by
    have length := congrArg length whole
    have lengthOther := congrArg List.length wholeOther
    rw [pad_length, length_append, length_replicate] at length lengthOther
    omega
  have padded := (pad_lt_iff (show n < 10 ^ 9 from small) smallOther).mpr less
  rw [whole, wholeOther] at padded
  have marked := marked_lt_iff least greatest lengths padded
  have nonempty : others ≠ [] := by
    rintro rfl
    have allLeast : ∀ char ∈ digits ++ replicate fewer '0', '0' ≤ char := by
      intro char mem
      rcases mem_append.mp mem with isDigit | isZero
      · exact least char isDigit
      · exact (eq_of_mem_replicate isZero).ge
    have zeros := zeros_le allLeast
    rw [length_append, length_replicate, lengths] at zeros
    exact zeros (by simpa using padded)
  rw [isShort, isShortOther]
  split_ifs with empty
  · simp [cons_lt_cons_iff]
  · simpa using marked

/-- Texts at `time.RFC3339Nano` are in the wrong order exactly when both instants lie in
one second and the digits of the earlier fraction begin those of the later one. -/
theorem format_rfc3339_nano_of_lt (fourDigits : (civil t).year < 10000)
    (fourDigitsOther : (civil u).year < 10000) (less : t < u) :
    (formatRFC3339Nano t < formatRFC3339Nano u ↔
      ¬(t / 1000000000 = u / 1000000000 ∧
        shortFraction (civil t).nanosecond <+: shortFraction (civil u).nanosecond)) ∧
    (formatRFC3339Nano u < formatRFC3339Nano t ↔
      t / 1000000000 = u / 1000000000 ∧
        shortFraction (civil t).nanosecond <+: shortFraction (civil u).nanosecond) := by
  rw [format_rfc3339_nano_lt_iff fourDigits fourDigitsOther,
    format_rfc3339_nano_lt_iff fourDigitsOther fourDigits]
  by_cases same : t / 1000000000 = u / 1000000000
  · have below : (civil t).nanosecond < (civil u).nanosecond := by
      change t % 1000000000 < u % 1000000000
      omega
    have fractions := short_fraction_lt_iff (civil_clock t).2.2.2 (civil_clock u).2.2.2 below
    simp only [same, lt_irrefl, false_or, true_and]
    exact fractions
  · have seconds : t / 1000000000 < u / 1000000000 := by omega
    simp [seconds, same, Ne.symm same, seconds.not_gt]

end

/-- `getnum`: two digits, or one if it need not be padded. -/
def getnum (fixed : Bool) : List Char → Option (Nat × List Char)
  | first :: second :: rest =>
    if !isDigit first then none
    else if isDigit second then some (digitsValue [first, second], rest)
    else if fixed then none
    else some (digitValue first, second :: rest)
  | [first] => if isDigit first && !fixed then some (digitValue first, []) else none
  | [] => none

def longYear (text : List Char) : Option (Nat × List Char) :=
  if (text.take 4).length = 4 ∧ (text.take 4).all isDigit then
    some (digitsValue (text.take 4), text.drop 4)
  else none

def literal (char : Char) : List Char → Option (List Char)
  | first :: rest => if first = char then some rest else none
  | [] => none

/-- `parseNanoseconds`: the digits behind the point, of which nine count. -/
def nanoseconds (digits : List Char) : Nat :=
  digitsValue (digits.take 9) * 10 ^ (9 - digits.length)

def fraction : List Char → Nat × List Char
  | mark :: first :: rest =>
    if (mark = '.' ∨ mark = ',') ∧ isDigit first then
      (nanoseconds ((first :: rest).takeWhile isDigit), (first :: rest).dropWhile isDigit)
    else (0, mark :: first :: rest)
  | text => (0, text)

def ranged (fixed : Bool) (least below : Nat) (text : List Char) : Option (Nat × List Char) :=
  (getnum fixed text).filter fun read => least ≤ read.1 ∧ read.1 < below

/-- `Parse` at `time.RFC3339Nano`, for texts in UTC: what the databases store is
formatted in UTC, and offsets from it are not read here. -/
def parseRFC3339Nano (text : List Char) : Option Nat := do
  let (year, text) ← longYear text
  let text ← literal '-' text
  let (month, text) ← ranged true 1 13 text
  let text ← literal '-' text
  let (day, text) ← getnum true text
  let text ← literal 'T' text
  let (hour, text) ← ranged false 0 24 text
  let text ← literal ':' text
  let (minute, text) ← ranged true 0 60 text
  let text ← literal ':' text
  let (second, text) ← ranged true 0 60 text
  let (nanosecond, text) := fraction text
  let text ← literal 'Z' text
  if text = [] ∧ 1 ≤ day ∧ day ≤ daysIn month year then
    some ({ year, month, day, hour, minute, second, nanosecond } : Civil).instant
  else none

section

variable {digits : List Char}

theorem getnum_pad (fixed : Bool) (small : n < 100) (rest : List Char) :
    getnum fixed (pad 2 n ++ rest) = some (n, rest) := by
  have value := digits_value_pad (show n < 10 ^ 2 from small)
  have tens := is_digit_digit_char (Nat.mod_lt (n / 10) (by omega : 0 < 10))
  have ones := is_digit_digit_char (Nat.mod_lt n (by omega : 0 < 10))
  simp only [pad, nil_append, cons_append] at value ⊢
  simp [getnum, tens, ones, value]

theorem ranged_pad {fixed : Bool} {least below : Nat} (small : n < 100) (le : least ≤ n)
    (lt : n < below) (rest : List Char) :
    ranged fixed least below (pad 2 n ++ rest) = some (n, rest) := by
  rw [ranged, getnum_pad fixed small, Option.filter_some, if_pos (by simp [le, lt])]

theorem long_year_pad (small : n < 10000) (rest : List Char) :
    longYear (pad 4 n ++ rest) = some (n, rest) := by
  have digits : (pad 4 n).all isDigit = true := by
    rw [all_eq_true]
    exact fun _ => pad_digits
  have front : (pad 4 n ++ rest).take 4 = pad 4 n := take_left' (pad_length 4 n)
  have back : (pad 4 n ++ rest).drop 4 = rest := drop_left' (pad_length 4 n)
  rw [longYear, front, back, if_pos ⟨pad_length 4 n, digits⟩, digits_value_pad small]

theorem long_year_longer (long : 4 < digits.length)
    (allDigits : ∀ char ∈ digits, isDigit char = true) (rest : List Char) :
    (longYear (digits ++ rest)).bind (fun read => literal '-' read.2) = none := by
  have back : ∃ digit others, (digits ++ rest).drop 4 = digit :: others ∧ isDigit digit = true := by
    rw [drop_append_of_le_length (by omega)]
    cases remaining : digits.drop 4 with
    | nil =>
      rw [drop_eq_nil_iff] at remaining
      omega
    | cons digit others =>
      have mem : digit ∈ digits.drop 4 := remaining ▸ mem_cons_self
      exact ⟨digit, others ++ rest, rfl, allDigits digit (mem_of_mem_drop mem)⟩
  obtain ⟨digit, others, isNext, isDigit⟩ := back
  have notDash : digit ≠ '-' := by
    rintro rfl
    exact absurd isDigit (by decide)
  unfold longYear
  split_ifs
  · rw [Option.bind_some, isNext, literal, if_neg notDash]
  · rfl

theorem digits_value_zeros (digits : List Char) (fewer : Nat) :
    digitsValue (digits ++ List.replicate fewer '0') = digitsValue digits * 10 ^ fewer := by
  induction fewer with
  | zero => simp
  | succ fewer ih =>
    rw [replicate_succ', ← append_assoc, digits_value_append, ih, pow_succ]
    simp [digitValue, Nat.mul_assoc]

theorem fraction_digits {fewer : Nat} (small : n < 10 ^ 9)
    (whole : pad 9 n = digits ++ List.replicate fewer '0') (nonempty : digits ≠ []) :
    fraction ('.' :: (digits ++ ['Z'])) = (n, ['Z']) := by
  have allDigits : ∀ char ∈ digits, isDigit char = true := fun _ mem =>
    pad_digits (whole ▸ mem_append_left _ mem)
  have length : digits.length + fewer = 9 := by
    have padded := congrArg length whole
    rwa [pad_length, length_append, length_replicate, eq_comm] at padded
  have value : nanoseconds digits = n := by
    have short : digits.take 9 = digits := take_of_length_le (by omega)
    have zeros : 9 - digits.length = fewer := by omega
    rw [nanoseconds, short, zeros, ← digits_value_zeros, ← whole, digits_value_pad small]
  have taken : (digits ++ ['Z']).takeWhile isDigit = digits := by
    rw [takeWhile_append_of_pos allDigits]
    simp [isDigit]
  have dropped : (digits ++ ['Z']).dropWhile isDigit = ['Z'] := by
    rw [dropWhile_append_of_pos allDigits]
    decide
  cases digits with
  | nil => exact absurd rfl nonempty
  | cons first rest =>
    have firstDigit := allDigits first mem_cons_self
    rw [cons_append] at taken dropped ⊢
    rw [fraction, if_pos ⟨.inl rfl, firstDigit⟩, taken, dropped, value]

theorem fraction_fixed (small : n < 10 ^ 9) :
    fraction ('.' :: (pad 9 n ++ ['Z'])) = (n, ['Z']) := by
  have whole : pad 9 n = pad 9 n ++ replicate 0 '0' := (append_nil _).symm
  refine fraction_digits small whole ?_
  rw [← length_pos_iff, pad_length]
  omega

theorem fraction_short (small : n < 10 ^ 9) : fraction (shortFraction n ++ ['Z']) = (n, ['Z']) := by
  obtain ⟨digits, fewer, whole, isShort⟩ := short_fraction_digits n
  rw [isShort]
  split_ifs with empty
  · subst empty
    have zero : n = 0 := by
      rw [← digits_value_pad small, whole, digits_value_zeros]
      exact Nat.zero_mul _
    rw [zero]
    rfl
  · exact fraction_digits small whole empty

theorem literal_cons (char : Char) (rest : List Char) : literal char (char :: rest) = some rest :=
  if_pos rfl

theorem date_time_digits (t : Nat) :
    dateTime (civil t) =
      appendInt 4 (civil t).year ++ '-' ::
        (pad 2 (civil t).month ++ '-' ::
          (pad 2 (civil t).day ++ 'T' ::
            (pad 2 (civil t).hour ++ ':' ::
              (pad 2 (civil t).minute ++ ':' :: pad 2 (civil t).second)))) := by
  have month := civil_month t
  have day := civil_day t
  have clock := civil_clock t
  unfold dateTime
  rw [append_int_pad (by omega) (by omega : (civil t).month < 10 ^ 2), append_int_pad (by
    omega) (by omega : (civil t).day < 10 ^ 2), append_int_pad (by omega) (by omega : (civil
    t).hour < 10 ^ 2), append_int_pad (by omega) (by omega : (civil t).minute < 10 ^ 2),
    append_int_pad (by omega) (by omega : (civil t).second < 10 ^ 2)]

section

variable (fourDigits : (civil t).year < 10000)
include fourDigits

theorem parse_date_time {tail : List Char} (read : fraction tail = ((civil t).nanosecond, ['Z'])) :
    parseRFC3339Nano (dateTime (civil t) ++ tail) = some t := by
  have month := civil_month t
  have day := civil_day t
  have clock := civil_clock t
  have valid : ([] : List Char) = [] ∧ 1 ≤ (civil t).day ∧
      (civil t).day ≤ daysIn (civil t).month (civil t).year := ⟨rfl, day.1, day.2.1⟩
  rw [date_time_digits, append_int_pad (by omega) (by omega : (civil t).year < 10 ^ 4)]
  simp only [append_assoc, cons_append]
  unfold parseRFC3339Nano
  rw [long_year_pad fourDigits, Option.bind_eq_bind, Option.bind_some]
  dsimp only
  rw [literal_cons, Option.bind_eq_bind, Option.bind_some,
    ranged_pad (by omega) month.1 (by omega), Option.bind_some]
  rw [literal_cons, Option.bind_some, getnum_pad true (by omega), Option.bind_some]
  rw [literal_cons, Option.bind_some, ranged_pad (by omega) (by omega) clock.1, Option.bind_some]
  rw [literal_cons, Option.bind_some, ranged_pad (by omega) (by omega) clock.2.1, Option.bind_some]
  rw [literal_cons, Option.bind_some, ranged_pad (by omega) (by omega) clock.2.2.1,
    Option.bind_some]
  rw [read, literal_cons, Option.bind_some, if_pos valid]
  exact congrArg some (civil_instant t)

theorem parse_format_fixed : parseRFC3339Nano (formatFixed t).toList = some t := by
  have clock := (civil_clock t).2.2.2
  rw [formatFixed, String.toList_ofList,
    append_int_pad (by omega) (by omega : (civil t).nanosecond < 10 ^ 9)]
  exact parse_date_time fourDigits (fraction_fixed clock)

theorem parse_format_nano : parseRFC3339Nano (formatRFC3339Nano t).toList = some t := by
  rw [formatRFC3339Nano, String.toList_ofList]
  exact parse_date_time fourDigits (fraction_short (civil_clock t).2.2.2)

end

theorem format_rfc3339_nano_injective : Function.Injective formatRFC3339Nano := by
  intro t u same
  have texts := congrArg String.toList same
  rw [formatRFC3339Nano, formatRFC3339Nano, String.toList_ofList, String.toList_ofList,
    date_time_digits, date_time_digits] at texts
  simp only [append_assoc, cons_append] at texts
  have year : (civil t).year = (civil u).year := by
    have years := congrArg (fun text => digitsValue (text.takeWhile isDigit)) texts
    rw [takeWhile_append_of_pos fun _ => append_int_digits,
      takeWhile_append_of_pos fun _ => append_int_digits, takeWhile_cons_of_neg (by decide),
      takeWhile_cons_of_neg (by decide), append_nil, append_nil, digits_value_append_int,
      digits_value_append_int] at years
    exact years
  have month := civil_month t
  have month' := civil_month u
  have day := civil_day t
  have day' := civil_day u
  have clock := civil_clock t
  have clock' := civil_clock u
  rw [year, append_cancel_left_eq, cons_inj_right] at texts
  have sizes (n m : Nat) : (pad 2 n).length = (pad 2 m).length := by
    rw [pad_length, pad_length]
  obtain ⟨months, texts⟩ := append_inj texts (sizes _ _)
  obtain ⟨days, texts⟩ := append_inj ((cons_inj_right _).mp texts) (sizes _ _)
  obtain ⟨hours, texts⟩ := append_inj ((cons_inj_right _).mp texts) (sizes _ _)
  obtain ⟨minutes, texts⟩ := append_inj ((cons_inj_right _).mp texts) (sizes _ _)
  obtain ⟨seconds, texts⟩ := append_inj ((cons_inj_right _).mp texts) (sizes _ _)
  rw [pad_inj (by omega) (by omega)] at months days hours minutes seconds
  have fractions := congrArg fraction texts
  rw [fraction_short clock.2.2.2, fraction_short clock'.2.2.2] at fractions
  rw [← civil_instant t, ← civil_instant u, Civil.instant, Civil.instant, year, months, days, hours,
    minutes, seconds, (Prod.mk.inj fractions).1]

theorem parse_format_fixed_later (later : 10000 ≤ (civil t).year) :
    parseRFC3339Nano (formatFixed t).toList = none := by
  have long : 10 ^ 4 ≤ (civil t).year := later
  have refused := long_year_longer (append_int_longer long) (fun _ => append_int_digits)
  rw [formatFixed, String.toList_ofList, date_time_digits]
  simp only [append_assoc]
  unfold parseRFC3339Nano
  rw [Option.bind_eq_bind, Option.bind_eq_none_iff]
  rintro ⟨year, text⟩ read
  have stuck := congrArg (fun read => read.bind fun read => literal '-' read.2) read
  rw [refused, Option.bind_some] at stuck
  change (literal '-' text).bind _ = none
  rw [← stuck]
  rfl

end

end RuneTerminal.Go.Time
