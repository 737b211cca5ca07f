import VpnTray.Decimal.Format
import VpnTray.Json.Number
import VpnTray.Text.Quoted

/-!
# Faults of a JSON text

A text that does not hold what its reader wants is refused for the first fault in
reading order: it is no JSON, or a value has the wrong type, or is out of range,
or a member occurs twice. A fault is reported without its position.
-/

namespace VpnTray.Json

open VpnTray.Text

/-- What a reader met where it wanted something else. -/
inductive Met
  | null
  | bool (b : Bool)
  | number (value : NumberValue)
  | string (text : Text)
  | list
  | object

/-- What a reader wanted. -/
inductive Wanted
  | config
  | word64
  | word32
  | boolean
  | string
deriving DecidableEq, Repr

/-- Why a JSON text was refused. -/
inductive Fault
  | malformed
  | wrongType (met : Met) (wanted : Wanted)
  | outOfRange (met : Met) (wanted : Wanted)
  | duplicate (name : String)

/-- Floats in messages: the shortest digits, positional from `1e-5` up to below
    `1e16`, and a plus sign before a positive exponent. -/
def floatFormat : Decimal.Format := ⟨-5, 15, true⟩

/-- How a message names what was met. -/
def Met.description : Met → Text
  | .null => "null"
  | .bool true => "boolean `true`"
  | .bool false => "boolean `false`"
  | .number (.integer n) => "integer `" ++ decimalInt n ++ "`"
  | .number (.float x) => "floating point `" ++ floatFormat.write x ++ "`"
  | .string text => "string " ++ quoted text
  | .list => "sequence"
  | .object => "map"

/-- How a message names what was wanted. -/
def Wanted.description : Wanted → Text
  | .config => "struct Config"
  | .word64 => "u64"
  | .word32 => "u32"
  | .boolean => "a boolean"
  | .string => "a string"

/-- The text of a fault. -/
def Fault.message : Fault → Text
  | .malformed => "<syntax>"
  | .wrongType met wanted =>
    "invalid type: " ++ met.description ++ ", expected " ++ wanted.description
  | .outOfRange met wanted =>
    "invalid value: " ++ met.description ++ ", expected " ++ wanted.description
  | .duplicate name => "duplicate field `" ++ name.toList ++ "`"

end VpnTray.Json
