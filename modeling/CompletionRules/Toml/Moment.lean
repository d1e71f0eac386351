import CompletionRules.Toml.Fault

-- Only whether a text is a date or a time matters, and what it lacks if it is not.

namespace CompletionRules.Toml.Moment

inductive Mark where
  | digits (text : List Char)
  | dash
  | colon
  | dot
  | between
  | blank
  | zulu
  | plus
  | other
  deriving Repr, DecidableEq

def marksWithin : Nat → List Char → List Mark
  | 0, _ => []
  | _, [] => []
  | room + 1, c :: rest =>
    if c.isDigit then
      .digits (c :: rest.takeWhile Char.isDigit) :: marksWithin room (rest.dropWhile Char.isDigit)
    else match c with
      | '-' => .dash :: marksWithin room rest
      | ':' => .colon :: marksWithin room rest
      | '.' => .dot :: marksWithin room rest
      | 'T' | 't' => .between :: marksWithin room rest
      | ' ' => .blank :: marksWithin room rest
      | 'Z' | 'z' => .zulu :: marksWithin room rest
      | '+' => .plus :: marksWithin room rest
      | _ => [.other]

def marks (text : List Char) : List Mark := marksWithin text.length text

abbrev Check (α : Type) := Except Cause α

def lack {α : Type} (part expected : String) : Check α := .error (.badMoment (some part) (some expected))

def digitsFor (part expected : String) : List Mark → Check (List Char × List Mark)
  | .digits text :: rest => .ok (text, rest)
  | _ => lack part expected

def markFor (mark : Mark) (part expected : String) : List Mark → Check (List Mark)
  | found :: rest => if found = mark then .ok rest else lack part expected
  | [] => lack part expected

def need (condition : Bool) (part expected : String) : Check Unit :=
  if condition then .ok () else lack part expected

def number (digits : List Char) : Nat := digits.foldl (fun value c => value * 10 + (c.toNat - 48)) 0

def isLeapYear (year : Nat) : Bool := year % 4 == 0 && (year % 100 ≠ 0 || year % 400 == 0)

def daysIn (year month : Nat) : Nat :=
  if month = 2 then (if isLeapYear year then 29 else 28)
  else if [4, 6, 9, 11].contains month then 30
  else 31

def afterYear (year : List Char) (given : List Mark) : Check (List Mark) := do
  let (month, given) ← digitsFor "date" "month" given
  let given ← markFor .dash "date" "`-` (MM-DD)" given
  let (day, given) ← digitsFor "date" "day" given
  need (year.length = 4) "date" "a four-digit year (YYYY)"
  need (month.length = 2) "date" "a two-digit month (MM)"
  need (day.length = 2) "date" "a two-digit day (DD)"
  need (1 ≤ number month && number month ≤ 12) "date" "month between 01 and 12"
  let last := daysIn (number year) (number month)
  need (1 ≤ number day && number day ≤ last) "date" ("day between 01 and " ++ toString last)
  pure given

def afterHour (hour : List Char) (given : List Mark) : Check (List Mark) := do
  let given ← markFor .colon "time" "`:` (HH:MM)" given
  let (minute, given) ← digitsFor "time" "minute" given
  let (second, given) ← match given with
    | .colon :: rest => do
      let (second, rest) ← digitsFor "time" "second" rest
      match rest with
      | .dot :: fraction => do
        let (_, rest) ← digitsFor "time" "nanosecond" fraction
        pure (second, rest)
      | _ => pure (second, rest)
    | _ => pure (['0', '0'], given)
  need (hour.length = 2) "time" "a two-digit hour (HH)"
  need (minute.length = 2) "time" "a two-digit minute (MM)"
  need (second.length = 2) "time" "a two-digit second (SS)"
  need (number hour ≤ 23) "time" "hour between 00 and 23"
  need (number minute ≤ 59) "time" "minute between 00 and 59"
  need (number second ≤ 60) "time" "second between 00 and 60"
  pure given

def time (given : List Mark) : Check (List Mark) := do
  let (hour, given) ← digitsFor "time" "hour" given
  afterHour hour given

def offset (given : List Mark) : Check (List Mark) := do
  let (hours, given) ← digitsFor "offset" "hour" given
  let given ← markFor .colon "offset" "`:` (HH:MM)" given
  let (minutes, given) ← digitsFor "offset" "minute" given
  need (hours.length = 2) "offset" "a two-digit hour (HH)"
  need (minutes.length = 2) "offset" "a two-digit minute (MM)"
  need (number hours ≤ 23) "offset" "hours between 00 and 23"
  need (number minutes ≤ 59) "offset" "minutes between 00 and 59"
  pure given

def afterDate : List Mark → Check (List Mark)
  | [] => .ok []
  | .between :: rest | .blank :: rest => do
    match ← time rest with
    | [] => pure []
    | .zulu :: left => pure left
    | .plus :: left | .dash :: left => offset left
    | _ => lack "offset" "`Z`, +OFFSET, -OFFSET"
  | _ => lack "date-time" "`T` between date and time"

def ended : List Mark → Check Unit
  | [] => .ok ()
  | _ => .error (.badMoment none none)

def check (text : List Char) : Check Unit :=
  let noSeparator := Cause.badMoment none (some "`-` (YYYY-MM) or `:` (HH:MM)")
  match marks text with
  | .digits year :: .dash :: rest => do ended (← afterDate (← afterYear year rest))
  | .digits hour :: .colon :: rest => do ended (← afterHour hour (.colon :: rest))
  | .digits _ :: _ => .error noSeparator
  | _ => .error (.badMoment none (some "year or hour"))

end CompletionRules.Toml.Moment
