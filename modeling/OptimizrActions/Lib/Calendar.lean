import Mathlib.Data.List.Basic
import Mathlib.Order.Monotone.Basic
import Mathlib.Order.Lattice
import Mathlib.Tactic.IntervalCases

/-! UTC date-times of the proleptic Gregorian calendar, with the RFC 3339 text
form that has seconds and a `Z` suffix. -/

namespace OptimizrActions.Calendar

def isLeap (year : Nat) : Bool :=
  year % 4 = 0 && (year % 100 ≠ 0 || year % 400 = 0)

def daysInMonth (year month : Nat) : Nat :=
  if month = 2 then (if isLeap year then 29 else 28)
  else if month ∈ [4, 6, 9, 11] then 30 else 31

def daysInYear (year : Nat) : Nat := if isLeap year then 366 else 365

def daysBeforeYear (year : Nat) : Nat :=
  (year - 1) * 365 + (year - 1) / 4 - (year - 1) / 100 + (year - 1) / 400

def daysBeforeMonth (year : Nat) : Nat → Nat
  | 0 => 0
  | 1 => 0
  | month + 2 => daysBeforeMonth year (month + 1) + daysInMonth year (month + 1)

theorem daysBeforeYear_succ {year : Nat} (h : 1 ≤ year) :
    daysBeforeYear (year + 1) = daysBeforeYear year + daysInYear year := by
  obtain ⟨n, rfl⟩ : ∃ n, year = n + 1 := ⟨year - 1, by omega⟩
  have fewer : n / 100 ≤ n / 4 := Nat.div_le_div_left (by omega) (by omega)
  have century : 100 ∣ n + 1 → 4 ∣ n + 1 := fun d => Dvd.dvd.trans (by norm_num) d
  have era : 400 ∣ n + 1 → 100 ∣ n + 1 := fun d => Dvd.dvd.trans (by norm_num) d
  simp only [daysBeforeYear, daysInYear, isLeap, Nat.add_sub_cancel, Nat.succ_div,
    ← Nat.dvd_iff_mod_eq_zero, Bool.and_eq_true, Bool.or_eq_true, decide_eq_true_eq, ne_eq]
  generalize n / 4 = a at *
  generalize n / 100 = b at *
  generalize n / 400 = c at *
  by_cases four : 4 ∣ n + 1
  · by_cases hundred : 100 ∣ n + 1
    · by_cases more : 400 ∣ n + 1 <;> simp [four, hundred, more] <;> omega
    · have more : ¬400 ∣ n + 1 := fun d => hundred (era d)
      simp [four, hundred, more]
      omega
  · have hundred : ¬100 ∣ n + 1 := fun d => four (century d)
    have more : ¬400 ∣ n + 1 := fun d => hundred (era d)
    simp [four, hundred, more]
    omega

theorem daysBeforeMonth_succ (year month : Nat) (h : 1 ≤ month) :
    daysBeforeMonth year (month + 1) = daysBeforeMonth year month + daysInMonth year month := by
  cases month with
  | zero => omega
  | succ month => rfl

theorem daysBeforeMonth_le (year : Nat) {m n : Nat} (h : m ≤ n) :
    daysBeforeMonth year m ≤ daysBeforeMonth year n := by
  have mono : Monotone (daysBeforeMonth year) := monotone_nat_of_le_succ fun
    | 0 => Nat.le_refl _
    | _ + 1 => Nat.le_add_right _ _
  exact mono h

theorem daysBeforeMonth_thirteen (year : Nat) : daysBeforeMonth year 13 = daysInYear year := by
  cases leap : isLeap year <;> simp [daysBeforeMonth, daysInMonth, daysInYear, leap]

theorem daysBeforeYear_le {a b : Nat} (h : a ≤ b) : daysBeforeYear a ≤ daysBeforeYear b := by
  have mono : Monotone daysBeforeYear := monotone_nat_of_le_succ fun
    | 0 => Nat.le_refl _
    | n + 1 => by
      rw [daysBeforeYear_succ (Nat.le_add_left 1 n)]
      exact Nat.le_add_right _ _
  exact mono h

def validFields (year month day hour minute second microsecond : Nat) : Bool :=
  1 ≤ year && year ≤ 9999 && 1 ≤ month && month ≤ 12 && 1 ≤ day && day ≤ daysInMonth year month &&
    hour ≤ 23 && minute ≤ 59 && second ≤ 59 && microsecond ≤ 999999

/-- An aware date-time in UTC; the fields are in range by construction. -/
structure DateTime where
  year : Nat
  month : Nat
  day : Nat
  hour : Nat
  minute : Nat
  second : Nat
  microsecond : Nat
  valid : validFields year month day hour minute second microsecond = true
  deriving DecidableEq

namespace DateTime

/-- Days since the first day of year one. -/
def ordinal (t : DateTime) : Nat :=
  daysBeforeYear t.year + daysBeforeMonth t.year t.month + t.day

/-- Microseconds on the time line. -/
def instant (t : DateTime) : Nat :=
  ((((t.ordinal * 24 + t.hour) * 60 + t.minute) * 60) + t.second) * 1000000 + t.microsecond



theorem ranges (t : DateTime) : 1 ≤ t.year ∧ t.year ≤ 9999 ∧ 1 ≤ t.month ∧ t.month ≤ 12 ∧
    1 ≤ t.day ∧ t.day ≤ daysInMonth t.year t.month ∧ t.hour ≤ 23 ∧ t.minute ≤ 59 ∧
    t.second ≤ 59 ∧ t.microsecond ≤ 999999 := by
  simpa [validFields, and_assoc] using t.valid

/-- A day lies after the days before its month and not after those before the next. -/
theorem ordinal_lt_of_month_lt {a b : DateTime} (year : a.year = b.year) (h : a.month < b.month) :
    a.ordinal < b.ordinal := by
  obtain ⟨-, -, month, -, -, day, -⟩ := a.ranges
  have next := daysBeforeMonth_succ a.year a.month month
  have le := daysBeforeMonth_le a.year h
  have := b.ranges
  simp only [Nat.succ_eq_add_one] at le
  simp only [ordinal, year] at *
  omega

theorem ordinal_lt_of_year_lt {a b : DateTime} (h : a.year < b.year) : a.ordinal < b.ordinal := by
  obtain ⟨year, -, month, last, -, day, -⟩ := a.ranges
  have inYear : daysBeforeMonth a.year (a.month + 1) ≤ daysInYear a.year := by
    rw [← daysBeforeMonth_thirteen]
    exact daysBeforeMonth_le _ (by omega)
  rw [daysBeforeMonth_succ _ _ month] at inYear
  have next := daysBeforeYear_succ year
  have le := daysBeforeYear_le (show a.year + 1 ≤ b.year from h)
  have := b.ranges
  simp only [ordinal]
  omega

theorem ordinal_injective {a b : DateTime} (h : a.ordinal = b.ordinal) :
    a.year = b.year ∧ a.month = b.month ∧ a.day = b.day := by
  have year : a.year = b.year := by
    rcases Nat.lt_trichotomy a.year b.year with lt | eq | gt
    · have := ordinal_lt_of_year_lt lt; omega
    · exact eq
    · have := ordinal_lt_of_year_lt gt; omega
  have month : a.month = b.month := by
    rcases Nat.lt_trichotomy a.month b.month with lt | eq | gt
    · have := ordinal_lt_of_month_lt year lt; omega
    · exact eq
    · have := ordinal_lt_of_month_lt year.symm gt; omega
  refine ⟨year, month, ?_⟩
  simp only [ordinal, year, month] at h
  omega

theorem instant_injective : Function.Injective instant := by
  intro a b h
  have ra := a.ranges
  have rb := b.ranges
  simp only [instant] at h
  obtain ⟨year, month, day⟩ := ordinal_injective (a := a) (b := b) (by omega)
  have hour : a.hour = b.hour := by omega
  have minute : a.minute = b.minute := by omega
  have second : a.second = b.second := by omega
  have microsecond : a.microsecond = b.microsecond := by omega
  cases a
  cases b
  simp_all

/-- Times are ordered as their instants; equal instants have equal fields. -/
instance : LinearOrder DateTime := LinearOrder.lift' instant instant_injective

theorem lt_def {a b : DateTime} : a < b ↔ a.instant < b.instant := Iff.rfl
theorem le_def {a b : DateTime} : a ≤ b ↔ a.instant ≤ b.instant := Iff.rfl

/-- `a - b` as a signed number of microseconds. -/
def sub (a b : DateTime) : Int := (a.instant : Int) - b.instant

/-- `timedelta(days=…)` and `timedelta(hours=…)` in microseconds. -/
def days (n : Nat) : Int := (n : Int) * 86400000000
def hours (n : Nat) : Int := (n : Int) * 3600000000

end DateTime

def digit (n : Nat) : Char := Char.ofNat (48 + n)

def digit? (c : Char) : Option Nat :=
  if '0' ≤ c ∧ c ≤ '9' then some (c.toNat - 48) else none

def number? (value : Nat) : List Char → Option Nat
  | [] => some value
  | c :: cs => do number? (value * 10 + (← digit? c)) cs

def dateTime? (year month day hour minute second : Nat) : Option DateTime :=
  if h : validFields year month day hour minute second 0 = true then
    some ⟨year, month, day, hour, minute, second, 0, h⟩
  else none

/-- `datetime.fromisoformat` on the fields: hour 24 is midnight of the next day. -/
def fromFields (year month day hour minute second : Nat) : Option DateTime :=
  if hour = 24 ∧ minute = 0 ∧ second = 0 ∧ month ≤ 12 ∧ day ≤ daysInMonth year month then
    if day + 1 ≤ daysInMonth year month then dateTime? year month (day + 1) 0 0 0
    else if month = 12 then dateTime? (year + 1) 1 1 0 0 0
    else dateTime? year (month + 1) 1 0 0 0
  else dateTime? year month day hour minute second

/-- The text form `YYYY-MM-DDTHH:MM:SSZ` with ASCII digits. -/
def parse? (text : String) : Option DateTime :=
  match text.toList with
  | [y₁, y₂, y₃, y₄, '-', m₁, m₂, '-', d₁, d₂, 'T', h₁, h₂, ':', n₁, n₂, ':', s₁, s₂, 'Z'] => do
    let year ← number? 0 [y₁, y₂, y₃, y₄]
    let month ← number? 0 [m₁, m₂]
    let day ← number? 0 [d₁, d₂]
    let hour ← number? 0 [h₁, h₂]
    let minute ← number? 0 [n₁, n₂]
    let second ← number? 0 [s₁, s₂]
    fromFields year month day hour minute second
  | _ => none

/-- `strftime("%Y-%m-%dT%H:%M:%SZ")`: microseconds are dropped. -/
def format (t : DateTime) : String :=
  String.ofList
    [digit (t.year / 1000), digit (t.year / 100 % 10), digit (t.year / 10 % 10), digit (t.year % 10),
      '-', digit (t.month / 10), digit (t.month % 10), '-', digit (t.day / 10), digit (t.day % 10),
      'T', digit (t.hour / 10), digit (t.hour % 10), ':', digit (t.minute / 10),
      digit (t.minute % 10), ':', digit (t.second / 10), digit (t.second % 10), 'Z']

/-- The time with its microseconds dropped. -/
def DateTime.truncate (t : DateTime) : DateTime :=
  { t with microsecond := 0, valid := by have := t.valid; simp_all [validFields] }

theorem digit?_digit {n : Nat} (h : n < 10) : digit? (digit n) = some n := by
  interval_cases n <;> decide

theorem daysInMonth_le (year month : Nat) : daysInMonth year month ≤ 31 := by
  unfold daysInMonth
  split_ifs <;> omega

theorem number?_two {n : Nat} (h : n < 100) :
    number? 0 [digit (n / 10), digit (n % 10)] = some n := by
  have tens : digit? (digit (n / 10)) = some (n / 10) := digit?_digit (by omega)
  have ones : digit? (digit (n % 10)) = some (n % 10) := digit?_digit (by omega)
  simp only [number?, tens, ones, Option.bind_eq_bind, Option.bind_some]
  congr 1
  omega

theorem number?_four {n : Nat} (h : n < 10000) :
    number? 0 [digit (n / 1000), digit (n / 100 % 10), digit (n / 10 % 10), digit (n % 10)] =
      some n := by
  have d₃ : digit? (digit (n / 1000)) = some (n / 1000) := digit?_digit (by omega)
  have d₂ : digit? (digit (n / 100 % 10)) = some (n / 100 % 10) := digit?_digit (by omega)
  have d₁ : digit? (digit (n / 10 % 10)) = some (n / 10 % 10) := digit?_digit (by omega)
  have d₀ : digit? (digit (n % 10)) = some (n % 10) := digit?_digit (by omega)
  simp only [number?, d₃, d₂, d₁, d₀, Option.bind_eq_bind, Option.bind_some]
  congr 1
  omega

/-- Reading a formatted time gives the time back, without its microseconds. -/
theorem parse?_format (t : DateTime) : parse? (format t) = some t.truncate := by
  have ranges := t.ranges
  have day := daysInMonth_le t.year t.month
  have year := number?_four (n := t.year) (by omega)
  have month := number?_two (n := t.month) (by omega)
  have dayText := number?_two (n := t.day) (by omega)
  have hour := number?_two (n := t.hour) (by omega)
  have minute := number?_two (n := t.minute) (by omega)
  have second := number?_two (n := t.second) (by omega)
  have notMidnight : t.hour ≠ 24 := by omega
  have fields := t.truncate.valid
  simp only [DateTime.truncate] at fields
  simp only [parse?, format, String.toList_ofList, year, month, dayText, hour, minute, second,
    Option.bind_eq_bind, Option.bind_some, fromFields, notMidnight, false_and, if_false,
    dateTime?, fields, dif_pos]
  rfl

theorem dateTime?_microsecond {year month day hour minute second : Nat} {t : DateTime}
    (h : dateTime? year month day hour minute second = some t) : t.microsecond = 0 := by
  unfold dateTime? at h
  split at h
  · cases h
    rfl
  · cases h

theorem fromFields_microsecond {year month day hour minute second : Nat} {t : DateTime}
    (h : fromFields year month day hour minute second = some t) : t.microsecond = 0 := by
  unfold fromFields at h
  split_ifs at h <;> exact dateTime?_microsecond h

theorem parse?_microsecond {text : String} {t : DateTime} (h : parse? text = some t) :
    t.microsecond = 0 := by
  unfold parse? at h
  split at h
  · simp only [Option.bind_eq_bind, Option.bind_eq_some_iff] at h
    obtain ⟨_, _, _, _, _, _, _, _, _, _, _, _, fields⟩ := h
    exact fromFields_microsecond fields
  · cases h

theorem DateTime.truncate_of_microsecond {t : DateTime} (h : t.microsecond = 0) :
    t.truncate = t := by
  cases t
  simp_all [DateTime.truncate]

theorem DateTime.truncate_le (t : DateTime) : t.truncate ≤ t := by
  simp [DateTime.le_def, DateTime.instant, DateTime.truncate, DateTime.ordinal]

/-- A time that was read from text survives being written and read again. -/
theorem parse?_format_parse? {text : String} {t : DateTime} (h : parse? text = some t) :
    parse? (format t) = some t := by
  rw [parse?_format, DateTime.truncate_of_microsecond (parse?_microsecond h)]

example : (parse? "2026-02-28T24:00:00Z").map format = some "2026-03-01T00:00:00Z" := by decide

end OptimizrActions.Calendar
