import Mathlib

namespace RustyCrew.Library

/-! ## Dates and times with an offset -/

def isLeapYear (year : Int) : Bool :=
  year % 4 = 0 && (year % 100 ≠ 0 || year % 400 = 0)

def daysInMonth (year : Int) : Nat → Nat
  | 2 => if isLeapYear year then 29 else 28
  | 4 | 6 | 9 | 11 => 30
  | _ => 31

def daysBeforeYear (year : Int) : Int :=
  let past := year - 1
  365 * past + past / 4 - past / 100 + past / 400

def daysBeforeMonth (year : Int) : Nat → Nat
  | 0 => 0
  | month + 1 => if month = 0 then 0 else daysBeforeMonth year month + daysInMonth year month

/-- A date and time of the proleptic Gregorian calendar and its offset from UTC. -/
structure OffsetDateTime where
  year : Int
  (month day hour minute second nanosecond : Nat)
  offsetSeconds : Int
  month_valid : 1 ≤ month ∧ month ≤ 12
  day_valid : 1 ≤ day ∧ day ≤ daysInMonth year month
  hour_valid : hour < 24
  minute_valid : minute < 60
  second_valid : second < 60
  nanosecond_valid : nanosecond < 10 ^ 9
  deriving DecidableEq

namespace OffsetDateTime

/-- Midnight in UTC on the first of January. -/
def startOfYear (year : Int) : OffsetDateTime where
  year := year
  month := 1
  day := 1
  hour := 0
  minute := 0
  second := 0
  nanosecond := 0
  offsetSeconds := 0
  month_valid := by decide
  day_valid := by simp [daysInMonth]
  hour_valid := by decide
  minute_valid := by decide
  second_valid := by decide
  nanosecond_valid := by decide

/-! ## Instants -/

variable (time : OffsetDateTime)

def dayNumber : Int :=
  daysBeforeYear time.year + (daysBeforeMonth time.year time.month + time.day : Nat)

def secondNumber : Int :=
  time.dayNumber * 86400 + (time.hour * 3600 + time.minute * 60 + time.second : Nat)

def instant : Int :=
  (time.secondNumber - time.offsetSeconds) * 10 ^ 9 + time.nanosecond

/-! ## Text -/

def digit (n : Nat) : Char := Char.ofNat ('0'.toNat + n % 10)

def padded : Nat → Nat → List Char
  | 0, _ => []
  | width + 1, n => padded width (n / 10) ++ [digit n]

def fraction (nanosecond : Nat) : List Char :=
  if nanosecond = 0 then []
  else '.' :: (padded 9 nanosecond).rdropWhile (· = '0')

def offsetText (offsetSeconds : Int) : List Char :=
  if offsetSeconds = 0 then ['Z']
  else
    (if offsetSeconds < 0 then '-' else '+') :: (padded 2 (offsetSeconds.natAbs / 3600) ++
        ':' :: padded 2 (offsetSeconds.natAbs / 60 % 60))

def secondText : List Char :=
  padded 4 time.year.toNat ++ '-' :: (padded 2 time.month ++ '-' :: (padded 2 time.day ++
    'T' :: (padded 2 time.hour ++ ':' :: (padded 2 time.minute ++ ':' :: padded 2 time.second))))

def formatRfc3339 : Option String :=
  if 0 ≤ time.year ∧ time.year < 10000 ∧ time.offsetSeconds.natAbs / 3600 ≤ 23 ∧
      time.offsetSeconds.natAbs % 60 = 0 then
    some (String.ofList
      (time.secondText ++ fraction time.nanosecond ++ offsetText time.offsetSeconds))
  else none

end OffsetDateTime

end RustyCrew.Library
