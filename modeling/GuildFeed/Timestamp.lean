import GuildFeed.Text.Numeral

namespace GuildFeed

structure Timestamp where
  millis : Nat
  deriving DecidableEq

namespace Timestamp

/-- The first millisecond of the year 262143, before which timestamps are representable. -/
def bound : Nat := 8210266876800000

def ofMillis? (millis : Nat) : Option Timestamp :=
  if millis < bound then some ⟨millis⟩ else none

structure Date where
  year : Nat
  month : Nat
  day : Nat
  deriving DecidableEq

/-- The date of a day counted from 1970. Years are taken to begin in March, so that the leap day
comes last, and are grouped in cycles of 400. -/
def Date.ofDay (day : Nat) : Date :=
  let z := day + 719468
  let cycle := z / 146097
  let inCycle := z % 146097
  let yearInCycle := (inCycle - inCycle / 1460 + inCycle / 36524 - inCycle / 146096) / 365
  let inYear := inCycle - (365 * yearInCycle + yearInCycle / 4 - yearInCycle / 100)
  let march := (5 * inYear + 2) / 153
  let month := if march < 10 then march + 3 else march - 9
  { year := 400 * cycle + yearInCycle + if month ≤ 2 then 1 else 0
    month
    day := inYear - (153 * march + 2) / 5 + 1 }

def padded (width n : Nat) : String :=
  let ds := Text.numeral n
  .ofList (List.replicate (width - ds.length) '0' ++ ds)

def yearText (year : Nat) : String :=
  (if 9999 < year then "+" else "") ++ padded 4 year

def text (t : Timestamp) : String :=
  let date := Date.ofDay (t.millis / 86400000)
  let seconds := t.millis / 1000 % 86400
  let fraction := t.millis % 1000
  yearText date.year ++ "-" ++ padded 2 date.month ++ "-" ++ padded 2 date.day
    ++ "T" ++ padded 2 (seconds / 3600) ++ ":" ++ padded 2 (seconds / 60 % 60)
    ++ ":" ++ padded 2 (seconds % 60)
    ++ (if fraction = 0 then "" else "." ++ padded 3 fraction) ++ "+00:00"

example : (Timestamp.mk 951868799999).text = "2000-02-29T23:59:59.999+00:00" := by decide +kernel

end Timestamp
end GuildFeed
