import VpnTray.Text.Blank

/-!
# Lines and cells

The tables that the client prints are lines of cells. A line ends at a line
feed, and a carriage return right before that line feed belongs to the line end;
a text that ends in a line feed has no further, empty line. Cells are separated
by tabs and trimmed.

* `lines`, `cells`: taking a text apart;
* `after?`: what follows a fixed beginning;
* `contains`: whether one text occurs within another.
-/

namespace VpnTray.Text

/-- A terminated line without the carriage return of its line end. -/
def dropReturn (line : List Char) : List Char :=
  (List.isSuffixOf? ['\r'] line).getD line

/-- The lines among the pieces between the line feeds. All pieces but the last
    were ended by a line feed; the last one is a line only if it is not empty. -/
def linesOfPieces : List (List Char) → List (List Char)
  | [] => []
  | [last] => if last.isEmpty then [] else [last]
  | piece :: pieces => dropReturn piece :: linesOfPieces pieces

/-- The lines of a text, without their line ends. -/
def lines (cs : List Char) : List (List Char) :=
  linesOfPieces (cs.splitOnP (· == '\n'))

/-- The trimmed cells of a line, separated by tabs; there is at least one. -/
def cells (line : List Char) : List (List Char) :=
  (line.splitOnP (· == '\t')).map trim

/-- What follows `start` in a text that begins with it. -/
def after? (start : String) (cs : List Char) : Option (List Char) :=
  start.toList.isPrefixOf? cs

/-- The text begins with `start`. -/
def startsWith (start : String) (cs : List Char) : Bool := start.toList.isPrefixOf cs

/-- The pattern occurs somewhere in the text. -/
def contains (pattern : List Char) : List Char → Bool
  | [] => pattern.isEmpty
  | c :: cs => pattern.isPrefixOf (c :: cs) || contains pattern cs

/-- Every occurrence of the character `old` replaced by the text `new`. -/
def replace (old : Char) (new : List Char) (cs : List Char) : List Char :=
  cs.flatMap fun c => if c = old then new else [c]

theorem contains_iff {pattern cs : List Char} : contains pattern cs ↔ pattern <:+: cs := by
  induction cs with
  | nil => rw [contains, List.isEmpty_iff, List.infix_nil]
  | cons c cs ih =>
    rw [contains, Bool.or_eq_true, ih, List.isPrefixOf_iff_prefix, List.infix_cons_iff]

@[simp] theorem lines_nil : lines [] = [] := rfl

@[simp] theorem replace_nil (old : Char) (new : List Char) : replace old new [] = [] := rfl

theorem replace_cons (old c : Char) (new cs : List Char) :
    replace old new (c :: cs) = (if c = old then new else [c]) ++ replace old new cs :=
  List.flatMap_cons

@[simp] theorem replace_append (old : Char) (new s t : List Char) :
    replace old new (s ++ t) = replace old new s ++ replace old new t :=
  List.flatMap_append ..

end VpnTray.Text
