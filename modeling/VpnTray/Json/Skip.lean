import VpnTray.Json.Token

/-!
# Skipping a value

A member that nobody asks for is skipped: its value has to be well formed, but
may be of any depth and size. Skipping goes through the tokens once, with the
stack of the brackets that are open; the values of its numbers and strings are
never taken.
-/

namespace VpnTray.Json

/-- What comes next while a value is skipped: the value itself, the first element of a
    list, the first key of an object, a key or a colon in it, or whatever follows a
    finished value. -/
inductive Expecting
  | value
  | firstElement
  | firstKey
  | key
  | colon
  | after
deriving DecidableEq, Repr

/-- Skips tokens until the brackets of the stack are closed, and gives what follows. -/
def skipFrom : Expecting → List Frame → List Token → Option (List Token)
  | .after, [], tokens => some tokens
  | _, _, [] => none
  | expecting, stack, token :: tokens =>
    match expecting, stack, token with
    | .value, _, .null | .value, _, .bool _ | .value, _, .number _ | .value, _, .string _
    | .firstElement, _, .null | .firstElement, _, .bool _ | .firstElement, _, .number _
    | .firstElement, _, .string _ => skipFrom .after stack tokens
    | .value, _, .opening .list | .firstElement, _, .opening .list =>
      skipFrom .firstElement (.list :: stack) tokens
    | .value, _, .opening .object | .firstElement, _, .opening .object =>
      skipFrom .firstKey (.object :: stack) tokens
    | .firstElement, .list :: outer, .closing .list => skipFrom .after outer tokens
    | .firstKey, _, .string _ | .key, _, .string _ => skipFrom .colon stack tokens
    | .firstKey, .object :: outer, .closing .object => skipFrom .after outer tokens
    | .colon, _, .colon => skipFrom .value stack tokens
    | .after, .list :: _, .comma => skipFrom .value stack tokens
    | .after, .object :: _, .comma => skipFrom .key stack tokens
    | .after, frame :: outer, .closing frame' =>
      if frame = frame' then skipFrom .after outer tokens else none
    | _, _, _ => none

/-- Skips one value, and gives what follows it. -/
def skip? (tokens : List Token) : Option (List Token) := skipFrom .value [] tokens

end VpnTray.Json
