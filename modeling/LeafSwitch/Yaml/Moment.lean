import LeafSwitch.Data.Value
import LeafSwitch.Time.Written
import LeafSwitch.Yaml.Error

/-!
# Dates in plain text

Plain text may write a date, or a date with a time of day and a place's distance from universal
time. Either is a value of its own kind. Two moments in known places are one key if they are one
instant.
-/

namespace LeafSwitch.Yaml

open Time (Date LocalTime isPlainDigit digitsOf? dayTimeAndZone?)

/-- What separates a date from a time of day, and the text behind it. -/
def behindDate? : List Char → Option (List Char)
  | 'T' :: cs => some cs
  | 't' :: cs => some cs
  | cs =>
    let rest := cs.dropWhile fun c => c == ' ' || c == '\t'
    if rest.length < cs.length then some rest else none

/-- A date as a value. -/
def dateValue (d : Date) : Value :=
  .other "datetime.date"
    ("datetime.date(" ++ toString d.year ++ ", " ++ toString d.month ++ ", " ++
      toString d.day ++ ")")
    d.text d.text

/-- A date and a time of day as a value; the place is known or not. -/
def momentValue (t : LocalTime) (hasZone : Bool) : Value :=
  let numbers := [t.date.year, t.date.month, t.date.day, t.hour, t.minute] ++
    (if t.second = 0 && t.micro = 0 then [] else [t.second]) ++
    (if t.micro = 0 then [] else [t.micro])
  let zone := if !hasZone then []
    else if t.offset = 0 then ["tzinfo=datetime.timezone.utc"]
    else ["tzinfo=datetime.timezone(" ++ Time.spanText t.offset ++ ")"]
  let reading := t.date.text ++ " " ++ t.clockText
  .other "datetime.datetime"
    ("datetime.datetime(" ++ ", ".intercalate (numbers.map toString ++ zone) ++ ")")
    (reading ++ (if hasZone then Time.offsetText t.offset else ""))
    (if hasZone then toString t.instant.micros else reading)

/-- The date or the moment that plain text writes, if it has the form of one. -/
def moment? (cs : List Char) : Option (Except LoadError Value) :=
  let dateText := cs.takeWhile fun c => isPlainDigit c || c == '-'
  let rest := cs.drop dateText.length
  match Text.pieces (· == '-') dateText with
  | [y, m, d] => do
    let least := if rest.isEmpty then 2 else 1
    let year ← digitsOf? 4 4 y
    let month ← digitsOf? least 2 m
    let day ← digitsOf? least 2 d
    if rest.isEmpty then
      return ((Date.check year month day).mapError .time).map dateValue
    else
      let (t, zone) ← dayTimeAndZone? (← behindDate? rest)
      return ((LocalTime.check year month day t.hour t.minute t.second t.micro
        (zone.getD 0)).mapError .time).map (momentValue · zone.isSome)
  | _ => none

end LeafSwitch.Yaml
