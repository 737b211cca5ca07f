import VpnTray.Calendar
import VpnTray.Duration
import VpnTray.Text.Lines
import VpnTray.Text.Lowercase

/-!
# What the sources print

The details of a connection come from several programs, each of which prints them in
a form of its own. Each function here finds one detail in what one program prints.
-/

namespace VpnTray

open Text

/-- Texts with a comma and a space between them; `none` if there are none. -/
def commaSeparated? (texts : List Text) : Option Text :=
  if texts.isEmpty then none else some ((", " : Text).intercalate texts)

namespace ConnectionInfo

/-! ## The client -/

/-- The version of the client: the first line, if it names the client. -/
def version? (output : Text) : Option Text :=
  (lines (trim output))[0]?.bind fun line =>
    let line := trim line
    if startsWithWord "twingate" line then some line else none

/-- The status that a line tells, if it does. -/
def statusOfLine? (line : Text) : Option Text :=
  if startsWith "Online" line || startsWith "online" line then some "Online"
  else if startsWith "Offline" line || startsWith "offline" line then some "Offline"
  else none

/-- What a line tells about the security of the name service, if it does. -/
def secureDnsOfLine? (line : Text) : Option Text := (after? "Secure DNS:" line).map trim

/-- The last of the details that the lines of a text tell. -/
def lastOfLines? (ofLine? : Text → Option Text) (output : Text) : Option Text :=
  ((lines output).filterMap fun line => ofLine? (trim line)).getLast?

/-! ## The network -/

/-- The word after the first `inet` among some words. -/
def wordAfterInet? : List Text → Option Text
  | [] => none
  | word :: rest => if word = "inet".toList then rest.head? else wordAfterInet? rest

/-- The address of a network interface. -/
def address? (output : Text) : Option Text := wordAfterInet? (words output)

/-- The name servers that a line tells: one text, however many they are. -/
def serversOfLine? (line : Text) : Option Text :=
  ((after? "DNS Servers:" line) <|> (after? "Current DNS Server:" line)).map trim

/-- The texts in the order of their first appearance, none of them empty or repeated. -/
def distinct : List Text → List Text :=
  List.foldl (fun found text => if text.isEmpty || text ∈ found then found else found ++ [text]) []

/-- The name servers in use. -/
def servers? (output : Text) : Option Text :=
  commaSeparated? (distinct ((lines output).filterMap fun line => serversOfLine? (trim line)))

/-- The domain that a line tells, if it does. -/
def domainOfLine? (line : Text) : Option Text := (after? "DNS Domain:" line).map trim

/-- The domain of the name service. -/
def domain? (output : Text) : Option Text := lastOfLines? domainOfLine? output

/-- The destinations of the routes: the first word of each line that has one. -/
def routes? (output : Text) : Option Text :=
  commaSeparated? ((lines output).filterMap fun line => (words line).head?)

/-! ## The start -/

/-- The start of the client, in seconds since the start of 1970. -/
def startTime? (output : Text) : Option Int :=
  (after? "ActiveEnterTimestamp=" (trim output)).bind fun value =>
    readInt64? ((trim value).dropWhile (· == '@'))

/-- The greatest difference that is told between two times, in seconds. -/
def longest : Int := Int64.maxValue.toInt

/-- A start, and how long ago it is; a dash if its date cannot be shown. -/
def describeSince (started now : Int) : Text :=
  match DateTime.ofSeconds? started with
  | none => "-"
  | some time =>
    let elapsed := Duration.ofSecs (min (now - started) longest).toNat
    time.text.toList ++ " (" ++ elapsed.words.toList ++ " ago)"

end ConnectionInfo

end VpnTray
