import VpnTray.Text.Basic

/-!
# Blank characters

Everything the tray reads from other programs is trimmed before it is used, and
trimmed the same way: a character is *blank* when it has the Unicode property
`White_Space`, so that a no-break space or an ideographic space goes and a
zero-width space stays.

* `isBlank`: the property itself;
* `trim`: the text without blanks at either end;
* `words`: the pieces between the blanks.
-/

namespace VpnTray.Text

/-- The characters with the Unicode property `White_Space`. -/
def isBlank (c : Char) : Bool :=
  let n := c.toNat
  (9 ≤ n && n ≤ 13) || n == 0x20 || n == 0x85 || n == 0xA0 || n == 0x1680 ||
    (0x2000 ≤ n && n ≤ 0x200A) || n == 0x2028 || n == 0x2029 || n == 0x202F ||
    n == 0x205F || n == 0x3000

/-- The text without its trailing characters that satisfy `p`. -/
def dropTail (p : Char → Bool) (cs : List Char) : List Char :=
  (cs.reverse.dropWhile p).reverse

/-- The text without the blanks in front. -/
def trimStart (cs : List Char) : List Char := cs.dropWhile isBlank

/-- The text without the blanks at the end. -/
def trimEnd (cs : List Char) : List Char := dropTail isBlank cs

/-- The text without blanks at either end. -/
def trim (cs : List Char) : List Char := trimEnd (trimStart cs)

/-- The maximal pieces of the text that hold no blank, in order. -/
def words (cs : List Char) : List (List Char) :=
  (cs.splitOnP isBlank).filter (!·.isEmpty)

@[simp] theorem dropTail_nil (p : Char → Bool) : dropTail p [] = [] := rfl

@[simp] theorem trim_nil : trim [] = [] := rfl

end VpnTray.Text
