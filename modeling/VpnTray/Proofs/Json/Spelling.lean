import Mathlib.Data.List.Chain
import VpnTray.Json.Token

/-!
# How tokens are spelled

The grammar of JSON says how each token may be spelled: a number with its digits and the two
letters of an exponent, a string with its escapes, and blanks anywhere between two tokens. It is
given here as relations, with no reader in mind, and reading undoes them: whatever the spelling,
`lex` finds the tokens again (`lex_eq_of_written`), and `textOf?` the text of a string
(`textOf?_eq_of_spelled`). Only two numbers without anything between them run together.

* `Spelled`: some things spelled one after the other;
* `Number.Spells`, `Piece.Spells`, `Token.Spells`: the spellings of a number, of a piece of a
  string, of a token;
* `Stands`: the pieces that stand for a character;
* `Written`: the texts of some tokens.
-/

namespace VpnTray.Json

open Text

/-- Some things are spelled one after the other. -/
inductive Spelled {α β : Type} (spells : α → List β → Prop) : List α → List β → Prop
  | nil : Spelled spells [] []
  | cons {a : α} {part : List β} {as : List α} {rest : List β} :
    spells a part → Spelled spells as rest → Spelled spells (a :: as) (part ++ rest)

/-! ## Numbers -/

/-- One or more digits. -/
def IsDigits (cs : Text) : Prop := cs ≠ [] ∧ ∀ c ∈ cs, c.isDigit

/-- The digits before the point. A zero comes first only by itself. -/
def IsWhole (cs : Text) : Prop := IsDigits cs ∧ (cs.head? = some '0' → cs = ['0'])

/-- The spellings of the digits after the point. -/
inductive SpellsFraction : Text → Text → Prop
  | none : SpellsFraction [] []
  | some {digits : Text} : IsDigits digits → SpellsFraction digits ('.' :: digits)

/-- The spellings of the sign of an exponent: it is negative or not. -/
inductive SpellsSign : Bool → Text → Prop
  | none : SpellsSign false []
  | plus : SpellsSign false ['+']
  | minus : SpellsSign true ['-']

/-- The spellings of an exponent. -/
inductive SpellsExponent : Option Exponent → Text → Prop
  | none : SpellsExponent .none []
  | some {letter : Char} {negative : Bool} {sign digits : Text} :
    letter = 'e' ∨ letter = 'E' → SpellsSign negative sign → IsDigits digits →
      SpellsExponent (.some ⟨negative, digits⟩) (letter :: (sign ++ digits))

/-- The spellings of a number. -/
inductive Number.Spells : Number → Text → Prop
  | mk {negative : Bool} {whole digits fraction : Text} {e : Option Exponent} {exponent : Text} :
    IsWhole whole → SpellsFraction digits fraction → SpellsExponent e exponent →
      Spells ⟨negative, whole, digits, e⟩
        ((if negative then ['-'] else []) ++ whole ++ fraction ++ exponent)

/-- No digit comes first. -/
def NoDigit (cs : Text) : Prop := ∀ c ∈ cs.head?, c.isDigit = false

/-- A number in front does not go on here. -/
def Ends (cs : Text) : Prop :=
  ∀ c ∈ cs.head?, c.isDigit = false ∧ c ≠ '.' ∧ c ≠ 'e' ∧ c ≠ 'E'

theorem Ends.noDigit {cs : Text} (h : Ends cs) : NoDigit cs := fun c hc => (h c hc).1

theorem spanDigits_eq {digits rest : Text} (hdigits : ∀ c ∈ digits, c.isDigit)
    (hrest : NoDigit rest) : spanDigits (digits ++ rest) = (digits, rest) := by
  rw [spanDigits, List.takeWhile_append_of_pos hdigits, List.dropWhile_append_of_pos hdigits]
  cases rest with
  | nil => simp
  | cons c cs =>
    have hc : c.isDigit = false := hrest c rfl
    simp [hc]

namespace Number

theorem lexWhole?_append {whole rest : Text} (h : IsWhole whole) (hrest : NoDigit rest) :
    lexWhole? (whole ++ rest) = some (whole, rest) := by
  obtain ⟨⟨hne, hdigits⟩, hzero⟩ := h
  rw [lexWhole?, spanDigits_eq hdigits hrest]
  split
  · next heq => exact absurd (Prod.mk.inj heq).1 hne
  · next heq =>
    have hwhole := (Prod.mk.inj heq).1
    rw [hwhole] at hzero
    cases hzero rfl
  · next heq => rw [heq]

theorem lexFraction?_append {digits fraction rest : Text} (h : SpellsFraction digits fraction)
    (hrest : NoDigit rest) (hpoint : '.' ∉ rest.head?) :
    lexFraction? (fraction ++ rest) = some (digits, rest) := by
  cases h with
  | none =>
    rw [List.nil_append]
    unfold lexFraction?
    split
    · exact absurd rfl hpoint
    · rfl
  | some hdigits =>
    rw [List.cons_append, lexFraction?, spanDigits_eq hdigits.2 hrest]
    split
    · next heq => exact absurd (Prod.mk.inj heq).1 hdigits.1
    · next heq => rw [heq]

theorem lexSign_append {negative : Bool} {sign digits : Text} (rest : Text)
    (h : SpellsSign negative sign) (hdigits : IsDigits digits) :
    lexSign (sign ++ digits ++ rest) = (negative, digits ++ rest) := by
  cases h with
  | none =>
    obtain ⟨hne, hdigit⟩ := hdigits
    cases digits with
    | nil => exact absurd rfl hne
    | cons c cs =>
      have hc := hdigit c List.mem_cons_self
      unfold lexSign
      split
      · next heq =>
        cases heq
        cases hc
      · next heq =>
        cases heq
        cases hc
      · rfl
  | plus => rfl
  | minus => rfl

theorem lexExponent?_append {e : Option Exponent} {exponent rest : Text}
    (h : SpellsExponent e exponent) (hrest : Ends rest) :
    lexExponent? (exponent ++ rest) = some (e, rest) := by
  cases h with
  | none =>
    cases rest with
    | nil => rfl
    | cons c cs =>
      obtain ⟨-, -, he, hE⟩ := hrest c rfl
      simp [lexExponent?, he, hE]
  | @some letter negative sign digits hletter hsign hdigits =>
    have hexponent : (letter = 'e' || letter = 'E') = true := by simpa using hletter
    rw [List.cons_append, lexExponent?, if_pos hexponent, lexSign_append rest hsign hdigits]
    dsimp only
    rw [spanDigits_eq hdigits.2 hrest.noDigit]
    split
    · next heq => exact absurd (Prod.mk.inj heq).1 hdigits.1
    · next heq => rw [← (Prod.mk.inj heq).1, ← (Prod.mk.inj heq).2]

/-- Neither a digit nor a point comes where an exponent may come. -/
theorem noDigit_exponent {e : Option Exponent} {exponent rest : Text}
    (h : SpellsExponent e exponent) (hrest : Ends rest) :
    NoDigit (exponent ++ rest) ∧ '.' ∉ (exponent ++ rest).head? := by
  cases h with
  | none => exact ⟨hrest.noDigit, fun h => (hrest _ h).2.1 rfl⟩
  | some hletter _ _ =>
    rcases hletter with rfl | rfl
    · exact ⟨by rintro _ ⟨⟩; rfl, by simp⟩
    · exact ⟨by rintro _ ⟨⟩; rfl, by simp⟩

theorem noDigit_fraction {digits fraction rest : Text} (h : SpellsFraction digits fraction)
    (hrest : NoDigit rest) : NoDigit (fraction ++ rest) := by
  cases h with
  | none => exact hrest
  | some _ =>
    rintro _ ⟨⟩
    rfl

theorem lex?_append {n : Number} {text rest : Text} (h : n.Spells text) (hrest : Ends rest) :
    lex? (text ++ rest) = some (n, rest) := by
  obtain @⟨negative, whole, digits, fraction, e, exponent, hwhole, hfraction, hexponent⟩ := h
  obtain ⟨hdigit, hpoint⟩ := noDigit_exponent hexponent hrest
  have hunsigned : lexUnsigned? negative (whole ++ (fraction ++ (exponent ++ rest))) =
      some (⟨negative, whole, digits, e⟩, rest) := by
    simp [lexUnsigned?, lexWhole?_append hwhole (noDigit_fraction hfraction hdigit),
      lexFraction?_append hfraction hdigit hpoint, lexExponent?_append hexponent hrest]
  cases negative with
  | true => simpa [lex?] using hunsigned
  | false =>
    obtain ⟨hne, hdigits⟩ := hwhole.1
    cases whole with
    | nil => exact absurd rfl hne
    | cons c cs =>
      have hc := hdigits c List.mem_cons_self
      have hminus : c ≠ '-' := by
        rintro rfl
        cases hc
      simpa [lex?, hminus] using hunsigned

/-- A number begins with a digit or a minus sign. -/
theorem Spells.head {n : Number} {text : Text} (h : n.Spells text) :
    ∃ c cs, text = c :: cs ∧ (c.isDigit ∨ c = '-') := by
  obtain @⟨negative, whole, digits, fraction, e, exponent, hwhole, -, -⟩ := h
  obtain ⟨hne, hdigits⟩ := hwhole.1
  cases negative with
  | true => exact ⟨'-', _, rfl, .inr rfl⟩
  | false =>
    cases whole with
    | nil => exact absurd rfl hne
    | cons c cs => exact ⟨c, _, rfl, .inl (hdigits c List.mem_cons_self)⟩

/-- Only zero begins with a zero. -/
theorem eq_zero_of_head?_decimal {n : Nat} (h : (decimal n).head? = some '0') : n = 0 := by
  induction n using Nat.strongRecOn with
  | ind n ih =>
    rw [decimal] at h
    by_cases hn : n < 10
    · have hdigits : ∀ n < 10, n.digitChar = '0' → n = 0 := by decide
      rw [Nat.toDigits_of_lt_base hn] at h
      exact hdigits n hn (Option.some.inj h)
    · rw [Nat.toDigits_of_base_le (by decide) (Nat.le_of_not_lt hn),
        List.head?_append_of_ne_nil _ Nat.toDigits_ne_nil] at h
      have hzero := ih (n / 10) (by omega) h
      omega

/-- A whole number is spelled by its decimal form. -/
theorem spells_decimal (n : Nat) : Spells ⟨false, decimal n, [], none⟩ (decimal n) := by
  have hwhole : IsWhole (decimal n) :=
    ⟨⟨decimal_ne_nil n, fun _ => isDigit_of_mem_decimal⟩, fun h => eq_zero_of_head?_decimal h ▸ rfl⟩
  have hspells : Spells ⟨false, decimal n, [], none⟩ ([] ++ decimal n ++ [] ++ []) :=
    .mk hwhole .none .none
  rwa [List.append_nil, List.append_nil] at hspells

end Number

/-! ## Strings -/

/-- The hexadecimal digits of a number, small or capital. -/
def SpellsHex (n : Nat) (c : Char) : Prop :=
  "0123456789abcdef".toList[n]? = some c ∨ "0123456789ABCDEF".toList[n]? = some c

/-- The spellings of a UTF-16 unit by four hexadecimal digits. -/
inductive SpellsUnit : Nat → Text → Prop
  | mk {k l m n : Nat} {a b c d : Char} :
    SpellsHex k a → SpellsHex l b → SpellsHex m c → SpellsHex n d →
      SpellsUnit (((k * 16 + l) * 16 + m) * 16 + n) [a, b, c, d]

/-- The letters behind a backslash, with the characters that they stand for. -/
def shortEscapes : List (Char × Char) :=
  [('"', '"'), ('\\', '\\'), ('/', '/'), ('b', '\x08'), ('f', '\x0c'), ('n', '\n'),
    ('r', '\r'), ('t', '\t')]

/-- The spellings of a piece of a string. -/
inductive Piece.Spells : Piece → Text → Prop
  | plain {c : Char} : ' ' ≤ c → c ≠ '"' → c ≠ '\\' → Spells (.char c) [c]
  | short {letter c : Char} : (letter, c) ∈ shortEscapes → Spells (.char c) ['\\', letter]
  | unit {n : Nat} {digits : Text} : SpellsUnit n digits →
    Spells (.unit n) ('\\' :: 'u' :: digits)

/-- The pieces that stand for a character: the character, its UTF-16 unit, or the two units of
    its surrogate pair. -/
inductive Stands (c : Char) : List Piece → Prop
  | char : Stands c [.char c]
  | unit : c.toNat < 0x10000 → Stands c [.unit c.toNat]
  | pair : 0x10000 ≤ c.toNat →
    Stands c [.unit (0xD800 + (c.toNat - 0x10000) / 0x400),
      .unit (0xDC00 + (c.toNat - 0x10000) % 0x400)]

theorem hexDigit?_eq {n : Nat} {c : Char} (h : SpellsHex n c) : hexDigit? c = some n := by
  have hlower : ∀ n < 16, "0123456789abcdef".toList[n]?.bind hexDigit? = some n := by decide
  have hupper : ∀ n < 16, "0123456789ABCDEF".toList[n]?.bind hexDigit? = some n := by decide
  rcases h with h | h
  · rw [← hlower n (List.getElem?_eq_some_iff.1 h).1, h, Option.bind_some]
  · rw [← hupper n (List.getElem?_eq_some_iff.1 h).1, h, Option.bind_some]

theorem lexString?_append_piece {piece : Piece} {text : Text} (h : piece.Spells text)
    (rest : Text) :
    lexString? (text ++ rest) =
      (lexString? rest).map fun (pieces, rest) => (piece :: pieces, rest) := by
  cases h with
  | plain hspace hquote hbackslash => simp [lexString?, hspace, hbackslash]
  | @short letter c h =>
    have hescapes : ∀ escape ∈ shortEscapes,
        escaped? escape.1 = some escape.2 ∧ escape.1 ≠ 'u' := by
      decide
    obtain ⟨hescaped, hu⟩ := hescapes _ h
    cases hrest : lexString? rest <;> simp [lexString?, hescaped, hu, hrest]
  | unit h =>
    obtain ⟨ha, hb, hc, hd⟩ := h
    cases hrest : lexString? rest <;>
      simp [lexString?, unit?, hexDigit?_eq ha, hexDigit?_eq hb, hexDigit?_eq hc, hexDigit?_eq hd,
        hrest]

/-- A string is read up to its closing quote. -/
theorem lexString?_append {pieces : List Piece} {text : Text}
    (h : Spelled Piece.Spells pieces text) (rest : Text) :
    lexString? (text ++ '"' :: rest) = some (pieces, rest) := by
  induction h with
  | nil => rfl
  | cons hpiece _ ih => rw [List.append_assoc, lexString?_append_piece hpiece, ih, Option.map_some]

theorem textOf?_append {c : Char} {pieces : List Piece} (h : Stands c pieces)
    (rest : List Piece) : textOf? (pieces ++ rest) = (textOf? rest).map (c :: ·) := by
  have hvalid : c.toNat < 0xD800 ∨ 0xDFFF < c.toNat ∧ c.toNat < 0x110000 := c.valid
  cases h with
  | char => rw [List.singleton_append, textOf?]
  | unit hunit =>
    have hhigh : isHigh c.toNat = false := by
      simp [isHigh]
      omega
    have hlow : isLow c.toNat = false := by
      simp [isLow]
      omega
    rw [List.singleton_append]
    -- A unit is tried with the one behind it first.
    cases rest with
    | nil => simp [textOf?, hhigh, hlow]
    | cons piece rest => cases piece <;> simp [textOf?, hhigh, hlow]
  | pair hpair =>
    have hhigh : isHigh (0xD800 + (c.toNat - 0x10000) / 0x400) = true := by
      simp [isHigh]
      omega
    have hlow : isLow (0xDC00 + (c.toNat - 0x10000) % 0x400) = true := by
      simp [isLow]
      omega
    have hvalue : 0x10000 + (0xD800 + (c.toNat - 0x10000) / 0x400 - 0xD800) * 0x400 +
        (0xDC00 + (c.toNat - 0x10000) % 0x400 - 0xDC00) = c.toNat := by
      omega
    rw [List.cons_append, List.singleton_append, textOf?, if_pos hhigh, if_pos hlow, hvalue,
      Char.ofNat_toNat]

/-- The text of a string, whatever its pieces. -/
theorem textOf?_eq_of_spelled {text : Text} {pieces : List Piece}
    (h : Spelled Stands text pieces) : textOf? pieces = some text := by
  induction h with
  | nil => rfl
  | cons hc _ ih => rw [textOf?_append hc, ih, Option.map_some]

theorem exists_spellsHex {n : Nat} (h : n < 16) : ∃ c, SpellsHex n c :=
  ⟨"0123456789abcdef".toList[n], .inl (List.getElem?_eq_getElem h)⟩

/-- Every character can be spelled. -/
theorem exists_spells_char (c : Char) :
    ∃ piece text, Stands c [piece] ∧ Piece.Spells piece text := by
  by_cases hspace : ' ' ≤ c
  · by_cases hquote : c = '"'
    · subst hquote
      exact ⟨_, _, .char, .short (show ('"', '"') ∈ shortEscapes by decide)⟩
    by_cases hbackslash : c = '\\'
    · subst hbackslash
      exact ⟨_, _, .char, .short (show ('\\', '\\') ∈ shortEscapes by decide)⟩
    · exact ⟨_, _, .char, .plain hspace hquote hbackslash⟩
  · have hcontrol : c.toNat < 32 := Nat.lt_of_not_le hspace
    obtain ⟨zero, hzero⟩ := exists_spellsHex (show 0 < 16 by decide)
    obtain ⟨high, hhigh⟩ := exists_spellsHex (show c.toNat / 16 < 16 by omega)
    obtain ⟨low, hlow⟩ := exists_spellsHex (show c.toNat % 16 < 16 by omega)
    have hvalue : ((0 * 16 + 0) * 16 + c.toNat / 16) * 16 + c.toNat % 16 = c.toNat := by omega
    have hunit : SpellsUnit c.toNat [zero, zero, high, low] := hvalue ▸ .mk hzero hzero hhigh hlow
    exact ⟨_, _, .unit (by omega), .unit hunit⟩

/-- Every text can be spelled. -/
theorem exists_spelled (text : Text) :
    ∃ pieces, Spelled Stands text pieces ∧ ∃ written, Spelled Piece.Spells pieces written := by
  induction text with
  | nil => exact ⟨[], .nil, [], .nil⟩
  | cons c text ih =>
    obtain ⟨piece, part, hstands, hpart⟩ := exists_spells_char c
    obtain ⟨pieces, hpieces, written, hwritten⟩ := ih
    exact ⟨_, .cons hstands hpieces, _, .cons hpart hwritten⟩

/-! ## Tokens -/

/-- The spellings of a token. -/
inductive Token.Spells : Token → Text → Prop
  | openList : Spells (.opening .list) ['[']
  | closeList : Spells (.closing .list) [']']
  | openObject : Spells (.opening .object) ['\x7b']
  | closeObject : Spells (.closing .object) ['\x7d']
  | colon : Spells .colon [':']
  | comma : Spells .comma [',']
  | null : Spells .null "null"
  | isTrue : Spells (.bool true) "true"
  | isFalse : Spells (.bool false) "false"
  | number {n : Number} {text : Text} : n.Spells text → Spells (.number n) text
  | string {pieces : List Piece} {text : Text} :
    Spelled Piece.Spells pieces text → Spells (.string pieces) ('"' :: (text ++ ['"']))

/-- Blanks, tabs and line ends. -/
def IsSpace (cs : Text) : Prop := ∀ c ∈ cs, c ∈ [' ', '\t', '\n', '\r']

/-- The texts of some tokens, with blanks anywhere between them. -/
inductive Written : List Token → Text → Prop
  | nil {space : Text} : IsSpace space → Written [] space
  | cons {token : Token} {tokens : List Token} {space text rest : Text} :
    IsSpace space → token.Spells text → Written tokens rest →
      Written (token :: tokens) (space ++ text ++ rest)

/-- A number runs together with a number behind it, but with no other token. -/
def Token.isNumber : Token → Bool
  | .number _ => true
  | _ => false

/-- No number comes right behind another one. -/
def Apart (tokens : List Token) : Prop :=
  tokens.IsChain fun token next => token.isNumber → next.isNumber = false

theorem isSpace_eq {c : Char} (h : c ∈ [' ', '\t', '\n', '\r']) : isSpace c = true := by
  simp only [List.mem_cons, List.not_mem_nil, or_false] at h
  rcases h with rfl | rfl | rfl | rfl <;> rfl

theorem lex_append_space {space : Text} (h : IsSpace space) (rest : Text) :
    lex (space ++ rest) = lex rest := by
  induction space with
  | nil => rfl
  | cons c cs ih =>
    rw [List.cons_append, lex, if_pos (isSpace_eq (h c List.mem_cons_self))]
    exact ih fun c hc => h c (List.mem_cons_of_mem _ hc)

theorem next?_append {token : Token} {text rest : Text} (h : token.Spells text)
    (hrest : token.isNumber → Ends rest) : next? (text ++ rest) = some (token, rest) := by
  cases h with
  | @number n text h =>
    obtain ⟨c, cs, rfl, hc⟩ := h.head
    -- No other token begins like a number, which is tried last.
    have hnumber : next? (c :: (cs ++ rest)) =
        (Number.lex? (c :: (cs ++ rest))).map fun result => (.number result.1, result.2) := by
      unfold next?
      split
      case h_12 => rfl
      all_goals simp_all
    rw [List.cons_append, hnumber, ← List.cons_append, Number.lex?_append h (hrest rfl)]
    rfl
  | string h => simp [next?, lexString?_append h]
  | _ => rfl

/-- No token begins with a blank. -/
theorem Token.Spells.head {token : Token} {text : Text} (h : token.Spells text) :
    ∃ c cs, text = c :: cs ∧ isSpace c = false := by
  cases h with
  | number h =>
    obtain ⟨c, cs, rfl, hc⟩ := h.head
    refine ⟨c, cs, rfl, ?_⟩
    rcases hc with hc | rfl
    · rw [Bool.eq_false_iff]
      intro hspace
      simp only [isSpace, Bool.or_eq_true, beq_iff_eq] at hspace
      rcases hspace with ((rfl | rfl) | rfl) | rfl <;> cases hc
    · rfl
  | string h => exact ⟨'"', _, rfl, rfl⟩
  | _ => exact ⟨_, _, rfl, rfl⟩

theorem lex_append_token {token : Token} {text rest : Text} (h : token.Spells text)
    (hrest : token.isNumber → Ends rest) : lex (text ++ rest) = token :: lex rest := by
  obtain ⟨c, cs, rfl, hc⟩ := h.head
  have hnext := next?_append h hrest
  rw [List.cons_append] at hnext ⊢
  rw [lex, if_neg (by simp [hc])]
  split
  · next heq =>
    rw [hnext] at heq
    cases heq
  · next heq =>
    rw [hnext] at heq
    cases heq
    rfl

/-- Nothing but a number goes on with a number. -/
theorem Token.Spells.ends {token : Token} {text : Text} (h : token.Spells text)
    (hnumber : token.isNumber = false) (rest : Text) : Ends (text ++ rest) := by
  intro c hc
  cases h with
  | number h => cases hnumber
  | _ =>
    cases hc
    decide

theorem ends_append {space rest : Text} (hspace : IsSpace space) (hrest : Ends rest) :
    Ends (space ++ rest) := by
  cases space with
  | nil => exact hrest
  | cons c cs =>
    rintro _ ⟨⟩
    have hc := hspace c List.mem_cons_self
    simp only [List.mem_cons, List.not_mem_nil, or_false] at hc
    rcases hc with rfl | rfl | rfl | rfl <;> decide

theorem Written.ends {tokens : List Token} {text : Text} (h : Written tokens text)
    (hnumber : ∀ token ∈ tokens.head?, token.isNumber = false) : Ends text := by
  cases h with
  | nil hspace =>
    have hends := ends_append hspace (show Ends [] from nofun)
    rwa [List.append_nil] at hends
  | cons hspace htoken hwritten =>
    rw [List.append_assoc]
    exact ends_append hspace (htoken.ends (hnumber _ rfl) _)

/-- However the tokens are spelled, they are found again. -/
theorem lex_eq_of_written {tokens : List Token} {text : Text} (h : Written tokens text)
    (hapart : Apart tokens) : lex text = tokens := by
  induction h with
  | @nil space hspace => rw [← List.append_nil space, lex_append_space hspace, lex]
  | @cons token tokens space text rest hspace htoken hwritten ih =>
    obtain ⟨hnext, hapart⟩ := List.isChain_cons.1 hapart
    have hrest : token.isNumber → Ends rest := fun hnumber =>
      hwritten.ends fun next hmem => hnext next hmem hnumber
    rw [List.append_assoc, lex_append_space hspace, lex_append_token htoken hrest, ih hapart]

/-- Tokens that can be spelled can be written. -/
theorem exists_written {tokens : List Token} (h : ∀ token ∈ tokens, ∃ text, token.Spells text) :
    ∃ text, Written tokens text := by
  induction tokens with
  | nil => exact ⟨[], .nil nofun⟩
  | cons token tokens ih =>
    obtain ⟨text, htext⟩ := h token List.mem_cons_self
    obtain ⟨rest, hrest⟩ := ih fun token htoken => h token (List.mem_cons_of_mem _ htoken)
    exact ⟨_, .cons (show IsSpace [] from nofun) htext hrest⟩

end VpnTray.Json
