/-!
# Durations

The text of a duration that is a whole number of milliseconds: in the largest of the units seconds,
milliseconds and nanoseconds that it reaches, as a decimal number without trailing zeros.
-/

namespace QuadTxn.Text

/-- The digits after the point of `ms` thousandths, without trailing zeros and with the point; no
text at all for zero thousandths. -/
def thousandths (ms : Nat) : String :=
  if ms = 0 then ""
  else
    let digits := [ms / 100 % 10, ms / 10 % 10, ms % 10]
    let kept := (digits.reverse.dropWhile (· = 0)).reverse
    "." ++ String.join (kept.map toString)

/-- The text of a duration given in milliseconds. -/
def duration (ms : Nat) : String :=
  if ms = 0 then "0ns"
  else if ms < 1000 then toString ms ++ "ms"
  else toString (ms / 1000) ++ thousandths (ms % 1000) ++ "s"

end QuadTxn.Text
