import VpnTray.Decimal.Shortest
import VpnTray.Text.Decimal

/-!
# Writing a float

A float is written with the digits of its shortest decimal, positionally while
its leading digit stands in a fixed range of places and with an exponent
elsewhere. `Format` holds the choices of a format.
-/

namespace VpnTray.Decimal

open VpnTray.Text

/-- The choices of a format: the places of the leading digit for which the number is
    written positionally, and whether a positive exponent shows its sign. -/
structure Format where
  lowest : Int
  highest : Int
  plus : Bool

namespace Format

/-- The digits and the exponent, the trailing zeros counted into the exponent. -/
def significant (d : Digits) : List Char × Int :=
  let digits := decimal d.digits
  let zeros := (digits.reverse.takeWhile (· == '0')).length
  (digits.take (digits.length - zeros), d.exponent + zeros)

/-- The digits with a point after the first `point` of them. -/
def positional (digits : List Char) (point : Int) : List Char :=
  if point ≤ 0 then ['0', '.'] ++ List.replicate (-point).toNat '0' ++ digits
  else
    let n := point.toNat
    if digits.length ≤ n then digits ++ List.replicate (n - digits.length) '0' ++ ['.', '0']
    else digits.take n ++ ['.'] ++ digits.drop n

variable (style : Format)

/-- A number in exponent notation, its leading digit in the given place. -/
def scientific (digits : List Char) (place : Int) : List Char :=
  let point := if digits.length ≤ 1 then [] else ['.']
  let sign := if 0 ≤ place && style.plus then ['+'] else []
  digits.take 1 ++ point ++ digits.drop 1 ++ ['e'] ++ sign ++ decimalInt place

/-- The text of a finite float. -/
def write (x : Float) : List Char :=
  let sign := if x.toBits >>> 63 = 1 then ['-'] else []
  let m := Magnitude.ofBits x.toBits
  if m.significand = 0 then sign ++ ['0', '.', '0']
  else
    let (digits, exponent) := significant m.shortest
    let place := digits.length + exponent - 1
    sign ++
      if style.lowest ≤ place && place ≤ style.highest then positional digits (place + 1)
      else style.scientific digits place

end Format

end VpnTray.Decimal
