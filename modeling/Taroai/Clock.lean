/-! Instants are whole microseconds of UTC, the resolution of `datetime`. -/

namespace Taroai

abbrev Time := Int

/-- `timedelta(seconds=n)` in microseconds. -/
def seconds (n : Int) : Time := n * 1000000

/-- A `datetime`: what its fields read and, when it is timezone-aware, its UTC offset. -/
structure DateTime where
  reading : Int
  utcOffset : Option Int
deriving DecidableEq, Repr

/-- `astimezone(timezone.utc)` of an aware datetime. -/
def DateTime.toUtc? (value : DateTime) : Option Time :=
  value.utcOffset.map fun offset => value.reading - offset

def DateTime.utc (t : Time) : DateTime := ⟨t, some 0⟩

end Taroai
