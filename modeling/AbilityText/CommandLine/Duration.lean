/-
AbilityText.CommandLine.Duration — lengths of time as text, in the largest unit that does not make
the number less than one.
-/
import AbilityText.Text.Letter

namespace AbilityText.CommandLine

/-- The fraction that `rest` spells in so many decimal places, without zeros at its end, after a
point. -/
def fractionText (places rest : Nat) : Text :=
  let digits := Text.ofNat rest
  let padded := List.replicate (places - digits.length) '0' ++ digits
  match Text.trimEndOf (· = '0') padded with
  | [] => []
  | shown => '.' :: shown

/-- A number of nanoseconds in the unit that holds ten to the power of `places` of them. -/
def inUnits (places nanoseconds : Nat) (unit : Text) : Text :=
  let size := Nat.pow 10 places
  Text.ofNat (nanoseconds / size) ++ fractionText places (nanoseconds % size) ++ unit

/-- A number of nanoseconds as text. -/
def durationText (nanoseconds : Nat) : Text :=
  if 1000000000 ≤ nanoseconds then inUnits 9 nanoseconds "s"
  else if 1000000 ≤ nanoseconds then inUnits 6 nanoseconds "ms"
  else if 1000 ≤ nanoseconds then inUnits 3 nanoseconds "µs"
  else inUnits 0 nanoseconds "ns"

end AbilityText.CommandLine
