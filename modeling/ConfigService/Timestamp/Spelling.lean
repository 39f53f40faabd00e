import ConfigService.Timestamp.Text
/-!
# Spelling — the texts that spell a timestamp

A text is told here by what stands in it, from the left to the right, and not by how it is read.  Six numbers are written
down with marks between them; whether there is such a date is another matter, and whether a timestamp can hold it a third.
-/
namespace ConfigService
namespace Timestamp

/-- White space, or none. -/
def IsGap (cs : List Char) : Prop := ∀ c ∈ cs, isBlank c = true

/-- Decimal digits, at least one of them. -/
structure AreDigits (ds : List Char) : Prop where
  ne_nil : ds ≠ []
  all : ∀ c ∈ ds, c.isDigit = true

/-- The texts of a year: after white space, up to four digits, or a sign and any number of them. -/
inductive YearText : (year : Int) → List Char → Prop
  | unsigned {gap ds : List Char} : IsGap gap → AreDigits ds → ds.length ≤ 4 → YearText (ofDigits ds) (gap ++ ds)
  | plus {gap ds : List Char} : IsGap gap → AreDigits ds → YearText (ofDigits ds) (gap ++ '+' :: ds)
  | minus {gap ds : List Char} : IsGap gap → AreDigits ds → YearText (-ofDigits ds) (gap ++ '-' :: ds)

/-- The texts of any other number: after white space, one or two digits. -/
inductive NumberText : (n : Nat) → List Char → Prop
  | digits {gap ds : List Char} : IsGap gap → AreDigits ds → ds.length ≤ 2 → NumberText (ofDigits ds) (gap ++ ds)

/-- What a text says of a date and a time of day, be there such a date or not. -/
structure Fields where
  year : Int
  month : Nat
  day : Nat
  hour : Nat
  minute : Nat
  second : Nat

namespace Fields

/-- The texts that spell some fields: the year, `-`, the month, `-`, the day, `T`, the hour, `:`, the minute, `:`, the
second, `Z`, and nothing after it. -/
inductive SpelledBy (f : Fields) : List Char → Prop
  | parts {year month day hour minute second : List Char} : YearText f.year year → NumberText f.month month →
      NumberText f.day day → NumberText f.hour hour → NumberText f.minute minute → NumberText f.second second →
      SpelledBy f (year ++ '-' :: (month ++ '-' :: (day ++ 'T' :: (hour ++ ':' :: (minute ++ ':' :: (second ++ ['Z']))))))

/-- There is such a date and such a time of day, where a minute may have a leap second. -/
structure Real (f : Fields) : Prop where
  date : Calendar.IsDate f.year f.month f.day
  hour : f.hour ≤ 23
  minute : f.minute ≤ 59
  second : f.second ≤ 60

/-- A moment has just these fields; a leap second is the second before it. -/
structure ShownBy (f : Fields) (m : Moment) : Prop where
  year : m.date.year = f.year
  month : m.date.month = f.month
  day : m.date.day = f.day
  hour : m.clock.hour = f.hour
  minute : m.clock.minute = f.minute
  second : m.clock.second = min f.second 59

end Fields

end Timestamp
end ConfigService
