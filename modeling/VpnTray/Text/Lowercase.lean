import VpnTray.Text.Lines

/-!
# Words in any case

Whether a text begins with or contains a plain ASCII word, upper and lower case
being the same. The comparison is made on the lower-case forms of the text, and
only three groups of characters have a lower-case form that holds an ASCII
letter: the letters `A` to `Z`, the Kelvin sign, which is a `k`, and the dotted
capital `İ`, which is an `i` followed by a combining dot. The lower-case form of
any other character shares nothing with an ASCII word, so these characters stand
for themselves here.
-/

namespace VpnTray.Text

/-- The lower-case form of a character, as far as it can be part of an ASCII word. -/
def lower (c : Char) : List Char :=
  if c = '\u212A' then ['k']
  else if c = '\u0130' then ['i', '\u0307']
  else [c.toLower]

/-- The text in lower case, as far as ASCII words are concerned. -/
def lowercase (cs : List Char) : List Char := cs.flatMap lower

/-- The text begins with the ASCII word, in any case. -/
def startsWithWord (word : String) (cs : List Char) : Bool := startsWith word (lowercase cs)

/-- The text contains the ASCII word, in any case. -/
def containsWord (word : String) (cs : List Char) : Bool := contains word.toList (lowercase cs)

@[simp] theorem lowercase_append (s t : List Char) :
    lowercase (s ++ t) = lowercase s ++ lowercase t :=
  List.flatMap_append ..

end VpnTray.Text
