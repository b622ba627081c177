import QueryLoom.Calendar.Date

/-!
# Dates with a time of day

A time of day to the nanosecond, with a sixtieth second for leap seconds, and its written form.
-/

namespace QueryLoom

/-- Whether hour, minute, second and nanosecond make a time of day. -/
def isTime (hour minute second nanosecond : Nat) : Bool :=
  hour ≤ 23 && minute ≤ 59 && second ≤ 60 && nanosecond < 1000000000

/-- A time of day. -/
structure Time where
  hour : Nat
  minute : Nat
  second : Nat
  nanosecond : Nat
  valid : isTime hour minute second nanosecond = true
deriving DecidableEq

namespace Time

/-- The time of day of its parts, if there is one. -/
def of? (hour minute second nanosecond : Nat) : Option Time :=
  if h : isTime hour minute second nanosecond = true then
    some ⟨hour, minute, second, nanosecond, h⟩
  else none

/-- A time of day is the time of its parts. -/
@[simp] theorem of?_parts (time : Time) :
    of? time.hour time.minute time.second time.nanosecond = some time := by
  simp [of?, time.valid]

/-- The written fraction of a second: nothing, or three, six or nine digits, the fewest that are
exact. -/
def writtenFraction (nanosecond : Nat) : String :=
  if nanosecond == 0 then ""
  else if nanosecond % 1000000 == 0 then "." ++ Text.padded 3 (nanosecond / 1000000)
  else if nanosecond % 1000 == 0 then "." ++ Text.padded 6 (nanosecond / 1000)
  else "." ++ Text.padded 9 nanosecond

/-- The written form `HH:MM:SS` with its fraction. -/
def render (time : Time) : String :=
  Text.padded 2 time.hour ++ ":" ++ Text.padded 2 time.minute ++ ":" ++
    Text.padded 2 time.second ++ writtenFraction time.nanosecond

end Time

/-- A calendar date with a time of day. -/
structure DateTime where
  date : Date
  time : Time
deriving DecidableEq

/-- The written date and the written time with a separator between them. -/
def DateTime.render (separator : String) (moment : DateTime) : String :=
  moment.date.render ++ separator ++ moment.time.render

end QueryLoom
