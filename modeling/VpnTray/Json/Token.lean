import VpnTray.Json.Number

/-!
# JSON tokens

A JSON text is read as a list of tokens, with the blanks between them left out.
Where the text goes on with something that is no token, the list ends with
`Token.unreadable`, so that a reader that works through the tokens finds every
other fault that comes earlier in the text first.

The characters of a string are kept as they are written (`Piece`): an escaped
UTF-16 unit need not be a character by itself. A string that is skipped may hold
any units; `textOf?` takes the pieces of a string that is used together, and
refuses half of a surrogate pair.

* `lex`: the tokens of a text;
* `textOf?`: the text of a string.
-/

namespace VpnTray.Json

/-- What a bracket encloses: the elements of a list or the members of an object. -/
inductive Frame
  | list
  | object
deriving DecidableEq, Repr

/-- A piece of a string: a character, or a UTF-16 unit escaped by its number. -/
inductive Piece
  | char (c : Char)
  | unit (n : Nat)
deriving DecidableEq, Repr

/-- A token of a JSON text, or the place from which on the text cannot be read. -/
inductive Token
  | opening (frame : Frame)
  | closing (frame : Frame)
  | colon
  | comma
  | null
  | bool (b : Bool)
  | number (n : Number)
  | string (pieces : List Piece)
  | unreadable
deriving DecidableEq, Repr

/-- The blanks between tokens. -/
def isSpace (c : Char) : Bool := c == ' ' || c == '\n' || c == '\t' || c == '\r'

/-! ## Strings -/

/-- The value of a hexadecimal digit. -/
def hexDigit? (c : Char) : Option Nat :=
  if c.isDigit then some (c.toNat - '0'.toNat)
  else if 'a' ≤ c && c ≤ 'f' then some (c.toNat - 'a'.toNat + 10)
  else if 'A' ≤ c && c ≤ 'F' then some (c.toNat - 'A'.toNat + 10)
  else none

/-- The UTF-16 unit written by four hexadecimal digits. -/
def unit? (a b c d : Char) : Option Nat := do
  return (((← hexDigit? a) * 16 + (← hexDigit? b)) * 16 + (← hexDigit? c)) * 16 + (← hexDigit? d)

/-- The character that a backslash and a letter stand for. -/
def escaped? (c : Char) : Option Char :=
  if c = '"' || c = '\\' || c = '/' then some c
  else if c = 'b' then some '\x08'
  else if c = 'f' then some '\x0c'
  else if c = 'n' then some '\n'
  else if c = 'r' then some '\r'
  else if c = 't' then some '\t'
  else none

/-- Reads a string after its opening quote: the pieces, and what follows the closing
    quote. Controls have to be escaped. -/
def lexString? : List Char → Option (List Piece × List Char)
  | [] => none
  | '"' :: cs => some ([], cs)
  | '\\' :: 'u' :: a :: b :: c :: d :: cs => do
    let n ← unit? a b c d
    let (pieces, rest) ← lexString? cs
    return (.unit n :: pieces, rest)
  | '\\' :: e :: cs => do
    let c ← escaped? e
    let (pieces, rest) ← lexString? cs
    return (.char c :: pieces, rest)
  | c :: cs =>
    if ' ' ≤ c && c ≠ '\\' then
      (lexString? cs).map fun (pieces, rest) => (.char c :: pieces, rest)
    else none

/-- The unit is the first half of a surrogate pair. -/
def isHigh (n : Nat) : Bool := 0xD800 ≤ n && n < 0xDC00

/-- The unit is the second half of a surrogate pair. -/
def isLow (n : Nat) : Bool := 0xDC00 ≤ n && n < 0xE000

/-- The text of a string, the surrogate pairs put together; `none` for half a pair. -/
def textOf? : List Piece → Option Text
  | [] => some []
  | .char c :: pieces => (textOf? pieces).map (c :: ·)
  | .unit high :: .unit low :: pieces =>
    if isHigh high then
      if isLow low then
        (textOf? pieces).map (Char.ofNat (0x10000 + (high - 0xD800) * 0x400 + (low - 0xDC00)) :: ·)
      else none
    else if isLow high then none
    else (textOf? (.unit low :: pieces)).map (Char.ofNat high :: ·)
  | .unit n :: pieces =>
    if isHigh n || isLow n then none else (textOf? pieces).map (Char.ofNat n :: ·)

/-! ## Tokens -/

/-- Reads the token that a text begins with, and gives it with what follows it. -/
def next? : List Char → Option (Token × List Char)
  | [] => none
  | '[' :: cs => some (.opening .list, cs)
  | ']' :: cs => some (.closing .list, cs)
  | '\x7b' :: cs => some (.opening .object, cs)
  | '\x7d' :: cs => some (.closing .object, cs)
  | ':' :: cs => some (.colon, cs)
  | ',' :: cs => some (.comma, cs)
  | 'n' :: 'u' :: 'l' :: 'l' :: cs => some (.null, cs)
  | 't' :: 'r' :: 'u' :: 'e' :: cs => some (.bool true, cs)
  | 'f' :: 'a' :: 'l' :: 's' :: 'e' :: cs => some (.bool false, cs)
  | '"' :: cs => (lexString? cs).map fun (pieces, rest) => (.string pieces, rest)
  | cs => (Number.lex? cs).map fun (n, rest) => (.number n, rest)

theorem lexString?_length {cs rest : List Char} {pieces : List Piece}
    (h : lexString? cs = some (pieces, rest)) : rest.length < cs.length := by
  fun_induction lexString? cs generalizing pieces <;>
    simp only [Option.bind_eq_bind, Option.bind_eq_some_iff, Option.map_eq_some_iff,
      Option.pure_def, Option.some.injEq, Prod.mk.injEq, Prod.exists, reduceCtorEq] at h
  case case2 => simp [← h.2]
  case case3 ih =>
    obtain ⟨_, _, _, _, hr, _, rfl⟩ := h
    have := ih hr
    simp only [List.length_cons]
    omega
  case case4 ih =>
    obtain ⟨_, _, _, _, hr, _, rfl⟩ := h
    have := ih hr
    simp only [List.length_cons]
    omega
  case case5 ih =>
    obtain ⟨_, _, hr, _, rfl⟩ := h
    exact Nat.lt_succ_of_lt (ih hr)

/-- A token has at least one character. -/
theorem next?_length {cs rest : List Char} {token : Token}
    (h : next? cs = some (token, rest)) : rest.length < cs.length := by
  unfold next? at h
  split at h
  case h_1 => simp at h
  case h_11 =>
    obtain ⟨⟨pieces, rest'⟩, hstring, heq⟩ := Option.map_eq_some_iff.1 h
    obtain ⟨_, rfl⟩ := by simpa using heq
    exact Nat.lt_succ_of_lt (lexString?_length hstring)
  case h_12 =>
    obtain ⟨⟨n, rest'⟩, hnumber, heq⟩ := Option.map_eq_some_iff.1 h
    obtain ⟨_, rfl⟩ := by simpa using heq
    exact Number.lex?_length hnumber
  all_goals
    obtain ⟨_, rfl⟩ := by simpa using h
    simp only [List.length_cons]
    omega

/-- The tokens of a text. -/
def lex (cs : List Char) : List Token :=
  match cs with
  | [] => []
  | c :: cs =>
    if isSpace c then lex cs
    else
      match _h : next? (c :: cs) with
      | none => [.unreadable]
      | some (token, rest) => token :: lex rest
termination_by cs.length
decreasing_by
  · simp
  · exact next?_length ‹_›

end VpnTray.Json
