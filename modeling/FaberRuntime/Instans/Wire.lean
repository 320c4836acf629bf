import FaberRuntime.Foundation.Decimal
import FaberRuntime.Instans.Instant
import FaberRuntime.Valor

namespace FaberRuntime

open Signed Text Decimal

/-! The RFC 3339 text of an instant and its parser. -/

def isLeapYear (year : Int) : Bool :=
  (year.tmod 4 == 0 && year.tmod 100 != 0) || year.tmod 400 == 0

/-- `none` is the panic of a month outside the table. -/
def daysInMonth (year : Int) (month : Nat) : Option Nat := do
  let days ← [31, 28, 31, 30, 31, 30, 31, 31, 30, 31, 30, 31][month - 1]?
  some (if month = 2 ∧ isLeapYear year then days + 1 else days)

def daysFromCivil (year : Int) (month day : Nat) : Int :=
  let y := year - if month ≤ 2 then 1 else 0
  let era := (if 0 ≤ y then y else y - 399).tdiv 400
  let yoe := y - era * 400
  let doy : Int := (153 * (if 2 < month then (month : Int) - 3 else month + 9) + 2).tdiv 5 + day - 1
  let doe := yoe * 365 + yoe.tdiv 4 - yoe.tdiv 100 + doy
  era * 146097 + doe - 719468

def civilFromDays (z : Int) : Int × Nat × Nat :=
  let z := z + 719468
  let era := (if 0 ≤ z then z else z - 146096).tdiv 146097
  let doe := (z - era * 146097).toNat
  let yoe := (doe - doe / 1460 + doe / 36524 - doe / 146096) / 365
  let y := (yoe : Int) + era * 400
  let doy := doe - (365 * yoe + yoe / 4 - yoe / 100)
  let mp := (5 * doy + 2) / 153
  let d := doy - (153 * mp + 2) / 5 + 1
  let m := if mp < 10 then mp + 3 else mp - 9
  (if m ≤ 2 then y + 1 else y, m, d)

def validateCivilDate (year : Int) (month day : Nat) : Option Unit :=
  if 1 ≤ month ∧ month ≤ 12 then do
    let maxDay ← daysInMonth year month
    if 1 ≤ day ∧ day ≤ maxDay then some () else none
  else none

def validateTimeOfDay (hour minute second : Nat) : Option Unit :=
  if 23 < hour ∨ 59 < minute ∨ 59 < second then none else some ()

def civilDatetimeNanos (year : Int) (month day hour minute second : Nat) (fractionNanos : Int) :
    Option Int64 := do
  let dayNanos ← checked (daysFromCivil year month day * nanosPerDay)
  let hours ← checked (hour * secondsPerHour)
  let minutes ← checked (minute * secondsPerMinute)
  let hoursMinutes ← checked (hours.toInt + minutes.toInt)
  let secondsOfDay ← checked (hoursMinutes.toInt + second)
  let secondNanos ← checked (secondsOfDay.toInt * nanosPerSecond)
  let timeNanos ← checked (secondNanos.toInt + fractionNanos)
  checked (dayNanos.toInt + timeNanos.toInt)

def offsetMinutesToNanos (offsetMinutes : Int) : Option Int64 := do
  let seconds ← checked (offsetMinutes * 60)
  checked (seconds.toInt * nanosPerSecond)

def splitOnce (separator : Char) (text : List Char) : Option (List Char × List Char) :=
  match text.dropWhile (· ≠ separator) with
  | [] => none
  | _ :: after => some (text.takeWhile (· ≠ separator), after)

def expectChar (input : List Char) (index : Nat) (expected : Char) : Option Unit :=
  if (utf8Bytes input)[index]? = some expected.toUInt8 then some () else none

def parseU32 (text : List Char) : Option Nat := parseUnsigned (2 ^ 32) text

def parseI32 (text : List Char) : Option Int := parseSigned (2 ^ 31) text

/-- `text.get(start..stop)` read as a number. -/
def numberAt (text : List Char) (start stop : Nat) : Option Nat := do
  parseU32 (← sliceBytes text start (stop - start))

def parseDate (date : List Char) : Option (Int × Nat × Nat) :=
  if utf8Len date ≠ 10 then none
  else do
    let year ← parseI32 (← sliceBytes date 0 4)
    expectChar date 4 '-'
    let month ← numberAt date 5 7
    expectChar date 7 '-'
    let day ← numberAt date 8 10
    some (year, month, day)

def parseFraction (tail : List Char) : Option (Int × List Char) :=
  match tail with
  | '.' :: tail => do
      let digits := tail.takeWhile Char.isDigit
      if digits = [] then none
      else do
        let fraction ← parseSigned (2 ^ 63) ((paddedRight 9 digits).take 9)
        some (fraction, tail.dropWhile Char.isDigit)
  | tail => some (0, tail)

def offsetHhmmMinutes (hour minute : Nat) : Option Nat :=
  if 23 < hour ∨ 59 < minute then none else some (hour * 60 + minute)

def parseOffsetMinutes (rest : List Char) : Option Nat :=
  match splitOnce ':' rest with
  | some (hours, mins) => do
      let hours ← parseU32 hours
      let mins ← parseU32 mins
      offsetHhmmMinutes hours mins
  | none =>
      if utf8Len rest = 4 then do
        let hours ← numberAt rest 0 2
        let mins ← numberAt rest 2 4
        offsetHhmmMinutes hours mins
      else if utf8Len rest = 2 then do
        let hours ← parseU32 rest
        offsetHhmmMinutes hours 0
      else none

def parseNumericOffset (zone : List Char) : Option Int :=
  match zone with
  | '+' :: rest => (parseOffsetMinutes rest).map fun minutes => (minutes : Int)
  | '-' :: rest => (parseOffsetMinutes rest).map fun minutes => -(minutes : Int)
  | _ => none

def parseOffset (zone : List Char) : Option Int :=
  if zone = [] then none
  else if zone = ['Z'] ∨ zone = ['z'] ∨ zone = ['+', '0', '0', ':', '0', '0'] ∨
      zone = ['-', '0', '0', ':', '0', '0'] then some 0
  else parseNumericOffset zone

/-- Byte 8 is a boundary once `get(6..8)` has answered, so the cursor walks the characters behind
it. -/
def parseTimeAndOffset (rest : List Char) : Option (Nat × Nat × Nat × Int × Int) :=
  if utf8Len rest < 8 then none
  else do
    let hour ← numberAt rest 0 2
    expectChar rest 2 ':'
    let minute ← numberAt rest 3 5
    expectChar rest 5 ':'
    let second ← numberAt rest 6 8
    let (_, tail) ← splitAtByte 8 rest
    let (fractionNanos, zone) ← parseFraction tail
    let offsetMinutes ← parseOffset zone
    some (hour, minute, second, fractionNanos, offsetMinutes)

def parseRfc3339 (input : List Char) : Option Int64 := do
  let (date, rest) ← (splitOnce 'T' input).orElse fun _ => splitOnce 't' input
  let (year, month, day) ← parseDate date
  let (hour, minute, second, fractionNanos, offsetMinutes) ← parseTimeAndOffset rest
  validateCivilDate year month day
  validateTimeOfDay hour minute second
  let localNanos ← civilDatetimeNanos year month day hour minute second fractionNanos
  let offsetNanos ← offsetMinutesToNanos offsetMinutes
  checked (localNanos.toInt - offsetNanos.toInt)

def civilText (truncated : Int) (praecisio : InstansPraecisio) : List Char :=
  let nanosOfDay := (truncated % nanosPerDay).toNat
  let (year, month, day) := civilFromDays (truncated / nanosPerDay)
  let secsOfDay := nanosOfDay / 1000000000
  let nanosRemainder := nanosOfDay % 1000000000
  let hour := secsOfDay / 3600
  let minute := secsOfDay % 3600 / 60
  let second := secsOfDay % 60
  let digits := praecisio.fractionDigits
  let fraction := nanosRemainder / 10 ^ (9 - digits)
  paddedInt 4 year ++ '-' :: padded 2 month ++ '-' :: padded 2 day ++
    'T' :: padded 2 hour ++ ':' :: padded 2 minute ++ ':' :: padded 2 second ++
    (if 0 < digits then '.' :: padded digits fraction else []) ++ ['Z']

def formatRfc3339Utc (checks : Bool) (nanos : Int64) (praecisio : InstansPraecisio) :
    Option (List Char) := do
  let truncated ← praecisio.truncateNanos checks nanos
  some (civilText truncated.toInt praecisio)

namespace Instans

def toRfc3339 (checks : Bool) (instant : Instans) : Option (List Char) :=
  formatRfc3339Utc checks instant.nanos instant.praecisio

/-- The outer option is the panic of `from_nanos`. -/
def fromRfc3339 (checks : Bool) (text : List Char) (praecisio : InstansPraecisio) :
    Option (Option Instans) :=
  match parseRfc3339 text with
  | none => some none
  | some nanos => (fromNanos checks nanos praecisio).map some

def tryFromValor {F : Type} (checks : Bool) (valor : Valor F) (praecisio : InstansPraecisio) :
    Option (Option Instans) :=
  match valor with
  | .instans text => fromRfc3339 checks text.toList praecisio
  | .textus text => fromRfc3339 checks text.toList praecisio
  | .numerus epoch => (fromEpochInteger checks epoch praecisio).map some
  | _ => some none

end Instans

end FaberRuntime
