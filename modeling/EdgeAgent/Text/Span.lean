import EdgeAgent.Text.Cut
import EdgeAgent.Text.Decimal

/-! Spans of time in the unit in which they read best: whole milliseconds below a second, and from
a second on seconds with as many decimal places as are needed. -/

namespace EdgeAgent.Span

/-- The text of a number of milliseconds. -/
def text (milliseconds : Nat) : String :=
  if milliseconds = 0 then "0ns"
  else if milliseconds < 1000 then Decimal.text milliseconds ++ "ms"
  else
    let fraction := dropTrailing '0' (Decimal.padded 3 (milliseconds % 1000))
    let point := if fraction = [] then [] else '.' :: fraction
    String.ofList (Decimal.digits (milliseconds / 1000) ++ point) ++ "s"

end EdgeAgent.Span
