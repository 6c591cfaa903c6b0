import SimpleVM.Python.Json

/-!
# ISO 8601

Dates as `JSONEncoder` and `JSONDecoder` write and read them with the strategy `.iso8601`: in the
Gregorian calendar and UTC, to the second. A date is its number of seconds since the reference
date, the first instant of 2001.
-/
namespace SimpleVM.Swift

open Python (isDigit)

section Calendar

/-- The days of the first years, from the year 1. -/
def daysOfYears (years : Nat) : Nat := 365 * years + years / 4 + years / 400 - years / 100

def isLeap (year : Nat) : Bool := year % 4 = 0 && (year % 100 ≠ 0 || year % 400 = 0)

def monthLengths (leap : Bool) : List Nat :=
  [31, if leap then 29 else 28, 31, 30, 31, 30, 31, 31, 30, 31, 30, 31]

/-- The full years before a day, which is counted from the first of January of the year 1. -/
def yearsBefore (day : Nat) : Nat :=
  let guess := day * 400 / 146097
  if daysOfYears (guess + 1) ≤ day then guess + 1 else guess

/-- The full months before a day of the year, and the days since the first of its month. -/
def monthAndDay : List Nat → Nat → Nat × Nat
  | [], day => (0, day)
  | length :: lengths, day =>
    if day < length then (0, day)
    else
      let (month, day) := monthAndDay lengths (day - length)
      (month + 1, day)

/-- The days of the first months. -/
def daysOfMonths : List Nat → Nat → Nat
  | length :: lengths, months + 1 => length + daysOfMonths lengths months
  | _, _ => 0

structure CivilDate where
  year : Nat
  month : Nat
  day : Nat
deriving DecidableEq, Repr

def CivilDate.ofDay (day : Nat) : CivilDate :=
  let years := yearsBefore day
  let (months, days) := monthAndDay (monthLengths (isLeap (years + 1))) (day - daysOfYears years)
  ⟨years + 1, months + 1, days + 1⟩

/-- The day of a date that the calendar has. -/
def CivilDate.toDay? (date : CivilDate) : Option Nat :=
  let lengths := monthLengths (isLeap date.year)
  if 1 ≤ date.year ∧ 1 ≤ date.day ∧ 1 ≤ date.month ∧
      lengths[date.month - 1]?.any (date.day ≤ ·) = true then
    some (daysOfYears (date.year - 1) + daysOfMonths lengths (date.month - 1) + (date.day - 1))
  else none

end Calendar

section Texts

/-- `%02d` of a number below 100. -/
def twoDigits (n : Nat) : List Char := [Nat.digitChar (n / 10 % 10), Nat.digitChar (n % 10)]

def fourDigits (n : Nat) : List Char := twoDigits (n / 100) ++ twoDigits (n % 100)

def readTwo (a b : Char) : Option Nat :=
  if isDigit a && isDigit b then some ((a.toNat - 48) * 10 + (b.toNat - 48)) else none

/-- The days before the reference date. -/
def referenceDay : Int := 730485

/-- `yyyy-MM-dd'T'HH:mm:ss'Z'`. -/
def dateCharacters (day second : Nat) : List Char :=
  let date := CivilDate.ofDay day
  fourDigits date.year ++ '-' :: (twoDigits date.month ++ '-' :: (twoDigits date.day ++
    'T' :: (twoDigits (second / 3600) ++ ':' :: (twoDigits (second / 60 % 60) ++
      ':' :: (twoDigits (second % 60) ++ ['Z'])))))

/-- The text of a date; what is less than a second is left out. -/
def dateString (date : Rat) : String :=
  let seconds := (date.floor + referenceDay * 86400).toNat
  String.ofList (dateCharacters (seconds / 86400) (seconds % 86400))

/-- The day and the second of the day of a text. -/
def readDate : List Char → Option (Nat × Nat)
  | [y, e, a, r, hyphen, m, o, hyphen', d, t, letter, h, i, colon, n, u, colon', s, c, zone] => do
    let century ← readTwo y e
    let year ← readTwo a r
    let month ← readTwo m o
    let day ← readTwo d t
    let hour ← readTwo h i
    let minute ← readTwo n u
    let second ← readTwo s c
    let date ← CivilDate.toDay? ⟨century * 100 + year, month, day⟩
    if [hyphen, hyphen', letter, colon, colon', zone] = ['-', '-', 'T', ':', ':', 'Z'] ∧
        hour < 24 ∧ minute < 60 ∧ second < 60 then
      some (date, hour * 3600 + minute * 60 + second)
    else none
  | _ => none

/-- The date of a text. -/
def dateOfString (text : String) : Option Rat := do
  let (day, second) ← readDate text.toList
  return ((day * 86400 + second : Nat) - referenceDay * 86400 : Int)

end Texts

/-! ## Dates that are written are read -/

theorem daysOfYears_add (years : Nat) :
    daysOfYears years + years / 100 = 365 * years + years / 4 + years / 400 := by
  unfold daysOfYears
  omega

/-- A quotient goes up at the multiples. -/
theorem succ_div_cases (n k : Nat) :
    ((n + 1) / k = n / k + 1 ∧ (n + 1) % k = 0) ∨ ((n + 1) / k = n / k ∧ (n + 1) % k ≠ 0) := by
  rw [Nat.succ_div]
  by_cases divides : k ∣ n + 1
  · exact .inl ⟨by rw [if_pos divides], Nat.mod_eq_zero_of_dvd divides⟩
  · exact .inr ⟨by rw [if_neg divides, Nat.add_zero], fun zero => divides (Nat.dvd_of_mod_eq_zero zero)⟩

theorem daysOfYears_succ (years : Nat) :
    daysOfYears (years + 1) = daysOfYears years + if isLeap (years + 1) then 366 else 365 := by
  have before := daysOfYears_add years
  have after := daysOfYears_add (years + 1)
  have four := succ_div_cases years 4
  have hundred := succ_div_cases years 100
  have fourHundred := succ_div_cases years 400
  -- Each quotient goes up or stays, and the remainders say which years are leap years.
  rcases four with ⟨four, isFourth⟩ | ⟨four, isFourth⟩
  · rcases hundred with ⟨hundred, isCentury⟩ | ⟨hundred, isCentury⟩
    · rcases fourHundred with ⟨fourHundred, isLast⟩ | ⟨fourHundred, isLast⟩
      · have leap : isLeap (years + 1) = true := by simp [isLeap, isFourth, isLast]
        rw [four, hundred, fourHundred] at after
        rw [leap, if_pos rfl]
        omega
      · have common : isLeap (years + 1) = false := by simp [isLeap, isCentury, isLast]
        rw [four, hundred, fourHundred] at after
        rw [common, if_neg Bool.false_ne_true]
        omega
    · have leap : isLeap (years + 1) = true := by simp [isLeap, isFourth, isCentury]
      have fourHundred : (years + 1) / 400 = years / 400 := by omega
      rw [four, hundred, fourHundred] at after
      rw [leap, if_pos rfl]
      omega
  · have common : isLeap (years + 1) = false := by simp [isLeap, isFourth]
    have hundred : (years + 1) / 100 = years / 100 := by omega
    have fourHundred : (years + 1) / 400 = years / 400 := by omega
    rw [four, hundred, fourHundred] at after
    rw [common, if_neg Bool.false_ne_true]
    omega

/-- The day is in the year after the full ones. -/
theorem yearsBefore_spec (day : Nat) :
    daysOfYears (yearsBefore day) ≤ day ∧ day < daysOfYears (yearsBefore day + 1) := by
  -- A year has 365.2425 days on average, so the guess is at most one year short.
  have lower : daysOfYears (day * 400 / 146097) ≤ day := by
    unfold daysOfYears
    omega
  have upper : day < daysOfYears (day * 400 / 146097 + 1 + 1) := by
    unfold daysOfYears
    omega
  unfold yearsBefore
  simp only
  split
  · rename_i later
    exact ⟨later, upper⟩
  · rename_i sooner
    exact ⟨lower, by omega⟩

/-- The month is one that has the day. -/
theorem monthAndDay_spec {lengths : List Nat} {day : Nat} (within : day < lengths.foldr (· + ·) 0) :
    daysOfMonths lengths (monthAndDay lengths day).1 + (monthAndDay lengths day).2 = day ∧
      ∃ length, lengths[(monthAndDay lengths day).1]? = some length ∧
        (monthAndDay lengths day).2 < length := by
  induction lengths generalizing day with
  | nil => cases within
  | cons length lengths ih =>
    unfold monthAndDay
    split
    · rename_i first
      exact ⟨by simp [daysOfMonths], length, rfl, first⟩
    · rename_i later
      have rest : day - length < lengths.foldr (· + ·) 0 := by
        rw [List.foldr_cons] at within
        omega
      obtain ⟨total, found, listed, inside⟩ := ih rest
      refine ⟨?_, found, listed, inside⟩
      simp only [daysOfMonths]
      omega

theorem length_monthLengths (leap : Bool) : (monthLengths leap).length = 12 := rfl

/-- The day of the year is in one of its months. -/
theorem monthAndDay_ofDay (day : Nat) :
    let lengths := monthLengths (isLeap (yearsBefore day + 1))
    let found := monthAndDay lengths (day - daysOfYears (yearsBefore day))
    daysOfYears (yearsBefore day) + (daysOfMonths lengths found.1 + found.2) = day ∧
      ∃ length, lengths[found.1]? = some length ∧ found.2 < length := by
  obtain ⟨begun, ends⟩ := yearsBefore_spec day
  rw [daysOfYears_succ] at ends
  have total : (monthLengths (isLeap (yearsBefore day + 1))).foldr (· + ·) 0 =
      if isLeap (yearsBefore day + 1) then 366 else 365 := by
    cases isLeap (yearsBefore day + 1) <;> rfl
  have within : day - daysOfYears (yearsBefore day) <
      (monthLengths (isLeap (yearsBefore day + 1))).foldr (· + ·) 0 := by
    rw [total]
    omega
  obtain ⟨days, listed⟩ := monthAndDay_spec within
  refine ⟨?_, listed⟩
  rw [days]
  omega

theorem ofDay_toDay (day : Nat) : (CivilDate.ofDay day).toDay? = some day := by
  obtain ⟨days, length, listed, inside⟩ := monthAndDay_ofDay day
  unfold CivilDate.toDay? CivilDate.ofDay
  simp only [Nat.add_sub_cancel, listed, Option.any_some, decide_eq_true_eq]
  rw [if_pos ⟨Nat.succ_pos _, Nat.succ_pos _, Nat.succ_pos _, inside⟩, Nat.add_assoc, days]

/-- A date that is written with four digits of its year. -/
def Dated (date : Rat) : Prop :=
  0 ≤ date.floor + referenceDay * 86400 ∧
    date.floor + referenceDay * 86400 < daysOfYears 9999 * 86400

theorem readTwo_twoDigits {n : Nat} (small : n < 100) : readTwo
    (Nat.digitChar (n / 10 % 10)) (Nat.digitChar (n % 10)) = some n := by
  have all : ∀ n : Fin 100, readTwo (Nat.digitChar (n.val / 10 % 10))
      (Nat.digitChar (n.val % 10)) = some n.val := by decide +kernel
  exact all ⟨n, small⟩

/-- The parts of a date in the first 9999 years have at most two or four digits. -/
theorem ofDay_bounds {day : Nat} (early : day < daysOfYears 9999) :
    (CivilDate.ofDay day).year ≤ 9999 ∧ (CivilDate.ofDay day).month < 100 ∧
      (CivilDate.ofDay day).day < 100 := by
  obtain ⟨begun, ends⟩ := yearsBefore_spec day
  obtain ⟨-, length, listed, inside⟩ := monthAndDay_ofDay day
  obtain ⟨months, held⟩ := List.getElem?_eq_some_iff.mp listed
  have short : ∀ leap : Bool, ∀ length ∈ monthLengths leap, length ≤ 31 := by decide
  have atMost := short _ length (held ▸ List.getElem_mem months)
  rw [length_monthLengths] at months
  have years : yearsBefore day < 9999 := by
    have before := daysOfYears_add (yearsBefore day)
    have limit : daysOfYears 9999 = 3652059 := by decide
    omega
  unfold CivilDate.ofDay
  simp only
  omega

theorem readDate_dateCharacters {day second : Nat} (early : day < daysOfYears 9999)
    (inDay : second < 86400) : readDate (dateCharacters day second) = some (day, second) := by
  obtain ⟨year, month, dayOfMonth⟩ := ofDay_bounds early
  unfold dateCharacters fourDigits twoDigits
  simp only [List.cons_append, List.nil_append, readDate]
  rw [readTwo_twoDigits (by omega), readTwo_twoDigits (by omega), readTwo_twoDigits month,
    readTwo_twoDigits dayOfMonth, readTwo_twoDigits (by omega), readTwo_twoDigits (by omega),
    readTwo_twoDigits (by omega)]
  have wholeYear : (CivilDate.ofDay day).year / 100 * 100 + (CivilDate.ofDay day).year % 100 =
      (CivilDate.ofDay day).year := by omega
  have read : CivilDate.toDay? ⟨(CivilDate.ofDay day).year, (CivilDate.ofDay day).month,
      (CivilDate.ofDay day).day⟩ = some day := ofDay_toDay day
  simp only [Option.bind_eq_bind, Option.bind_some, wholeYear, read]
  rw [if_pos ⟨trivial, by omega, by omega, by omega⟩]
  congr 2
  omega

/-- A date that is written is read again, to the second. -/
theorem dateOfString_dateString {date : Rat} (dated : Dated date) :
    dateOfString (dateString date) = some (date.floor : Rat) := by
  obtain ⟨after, before⟩ := dated
  unfold dateOfString dateString
  simp only [String.toList_ofList]
  rw [readDate_dateCharacters (by omega) (by omega)]
  simp only [Option.bind_eq_bind, Option.bind_some, Option.pure_def]
  congr 2
  omega

/-- A whole second is written as it is. -/
theorem floor_floor (date : Rat) : (date.floor : Rat).floor = date.floor := Rat.floor_intCast _

theorem Dated.floor {date : Rat} (dated : Dated date) : Dated (date.floor : Rat) := by
  unfold Dated
  rw [floor_floor]
  exact dated

example : dateString 0 = "2001-01-01T00:00:00Z" := by decide +kernel

end SimpleVM.Swift
