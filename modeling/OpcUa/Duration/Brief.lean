import OpcUa.Duration.Basic
import OpcUa.Text.Decimal

/-!
The brief form of a duration, such as `1.5s`, `100ms` or `1.001µs`: one decimal number in the
largest unit in which it is at least one, exact and without zeros at its end.
-/

namespace OpcUa.Duration

def decimalText (whole fraction places : Nat) (unit : String) : String :=
  let digits := Text.Decimal.trimEnd (Text.Decimal.padded places fraction)
  let point := if digits.isEmpty then "" else "."
  Text.Decimal.ofNat whole ++ point ++ String.ofList digits ++ unit

def brief (d : Duration) : String :=
  if d.seconds ≠ 0 then decimalText d.seconds.toNat d.nanos 9 "s"
  else if d.nanos ≥ 1000000 then decimalText (d.nanos / 1000000) (d.nanos % 1000000) 6 "ms"
  else if d.nanos ≥ 1000 then decimalText (d.nanos / 1000) (d.nanos % 1000) 3 "µs"
  else decimalText d.nanos 0 0 "ns"

end OpcUa.Duration
