import VpnTray.Config.Basic
import VpnTray.Json.Fault
import VpnTray.Json.Skip

/-!
# Reading a configuration

A configuration is a JSON object with the settings as members, in any order, or a
list of the settings in their fixed order, of which the last ones may be missing.
A setting that is missing keeps its default, a member of any other name is
skipped, and a setting that occurs twice is a fault.

* `Field.read`: one setting, from the tokens of its value;
* `Config.ofJson`: the configuration in a text, or the first fault of the text.
-/

namespace VpnTray

open Json

/-- What a token that begins a value is. No value begins with a comma, a colon, a
    closing bracket, or something that cannot be read. -/
def Json.Token.met? : Token → Option Met
  | .null => some .null
  | .bool b => some (.bool b)
  | .number n => n.value?.map .number
  | .string pieces => (textOf? pieces).map .string
  | .opening .list => some .list
  | .opening .object => some .object
  | _ => none

namespace Config

/-- A number below `bound`. -/
def word (bound : Nat) (wanted : Wanted) : Met → Except Fault Nat
  | .number (.integer n) =>
    if 0 ≤ n ∧ n < bound then .ok n.toNat else .error (.outOfRange (.number (.integer n)) wanted)
  | met => .error (.wrongType met wanted)

/-- A truth value. -/
def boolean : Met → Except Fault Bool
  | .bool b => .ok b
  | met => .error (.wrongType met .boolean)

/-- A text. -/
def string : Met → Except Fault Text
  | .string text => .ok text
  | met => .error (.wrongType met .string)

/-- The configuration with a setting changed to the value that was met. -/
def Field.set (config : Config) (met : Met) : Field → Except Fault Config
  | .pollInterval => (word UInt64.size .word64 met).map ({ config with pollIntervalMs := .ofNat · })
  | .notifications => (boolean met).map ({ config with notifications := · })
  | .notificationTimeout =>
    (word UInt32.size .word32 met).map ({ config with notificationTimeoutMs := .ofNat · })
  | .client => (string met).map ({ config with client := · })

/-- Reads the value of a setting, which is the next token. -/
def Field.read (field : Field) (config : Config) :
    List Token → Except Fault (Config × List Token)
  | [] => .error .malformed
  | token :: rest =>
    match token.met? with
    | none => .error .malformed
    | some met =>
      match field.set config met with
      | .error fault => .error fault
      | .ok config => .ok (config, rest)

/-! ## Lists -/

/-- Reads the settings of a list from behind an element on; `fields` are those to come. -/
def readList (config : Config) : List Field → List Token → Except Fault (Config × List Token)
  | _, .closing .list :: rest => .ok (config, rest)
  | field :: fields, .comma :: tokens =>
    match field.read config tokens with
    | .error fault => .error fault
    | .ok (config, rest) => readList config fields rest
  | _, _ => .error .malformed

/-! ## Objects -/

/-- What has been read of an object: the configuration so far, and its settings. -/
structure Members where
  config : Config := {}
  seen : List Field := []

/-- The tokens behind a colon. -/
def behindColon : List Token → Except Fault (List Token)
  | .colon :: rest => .ok rest
  | _ => .error .malformed

/-- Reads a member whose name has been read. -/
def readValue (members : Members) (name : Text) (tokens : List Token) :
    Except Fault (Members × List Token) :=
  match Field.ofName? name with
  | none => do
    match skip? (← behindColon tokens) with
    | none => .error .malformed
    | some rest => .ok (members, rest)
  | some field => do
    if field ∈ members.seen then .error (.duplicate field.name)
    else
      let (config, rest) ← field.read members.config (← behindColon tokens)
      .ok (⟨config, field :: members.seen⟩, rest)

/-- Reads a member. -/
def readMember (members : Members) : List Token → Except Fault (Members × List Token)
  | .string pieces :: tokens =>
    match textOf? pieces with
    | none => .error .malformed
    | some name => readValue members name tokens
  | _ => .error .malformed

end Config

theorem Json.skipFrom_length {expecting : Expecting} {stack : List Frame}
    {tokens rest : List Token} (h : skipFrom expecting stack tokens = some rest) :
    rest.length ≤ tokens.length := by
  fun_induction skipFrom expecting stack tokens <;> grind

theorem Json.skip?_length {tokens rest : List Token} (h : skip? tokens = some rest) :
    rest.length ≤ tokens.length :=
  skipFrom_length h

namespace Config

theorem Field.read_length {field : Field} {config : Config} {tokens : List Token}
    {result : Config × List Token} (h : field.read config tokens = .ok result) :
    result.2.length ≤ tokens.length := by
  unfold Field.read at h
  repeat' split at h
  all_goals cases h
  simp

theorem readValue_length {members : Members} {name : Text} {tokens : List Token}
    {result : Members × List Token} (h : readValue members name tokens = .ok result) :
    result.2.length ≤ tokens.length := by
  have hcolon : ∀ {rest}, behindColon tokens = .ok rest → rest.length ≤ tokens.length := by
    intro rest hrest
    unfold behindColon at hrest
    split at hrest <;> cases hrest
    simp
  unfold readValue at h
  cases hname : Field.ofName? name <;> cases hbehind : behindColon tokens <;>
    simp only [hname, hbehind, bind, Except.bind] at h
  case none.error => simp at h
  case none.ok rest =>
    split at h
    · simp at h
    · rename_i hskip
      cases h
      exact Nat.le_trans (skip?_length hskip) (hcolon hbehind)
  case some.error field => split at h <;> simp at h
  case some.ok field rest =>
    split at h
    · simp at h
    · cases hread : field.read members.config rest <;> simp only [hread] at h
      · simp at h
      · cases h
        exact Nat.le_trans (Field.read_length hread) (hcolon hbehind)

/-- A member has at least one token. -/
theorem readMember_length {members : Members} {tokens : List Token}
    {result : Members × List Token} (h : readMember members tokens = .ok result) :
    result.2.length < tokens.length := by
  unfold readMember at h
  split at h
  · split at h
    · simp at h
    · exact Nat.lt_succ_of_le (readValue_length h)
  · simp at h

/-- Reads the members of an object up to its closing bracket. -/
def readMembers (members : Members) (tokens : List Token) :
    Except Fault (Config × List Token) :=
  match _h : readMember members tokens with
  | .ok (members, .comma :: rest) => readMembers members rest
  | .ok (members, .closing .object :: rest) => .ok (members.config, rest)
  | .ok _ => .error .malformed
  | .error fault => .error fault
termination_by tokens.length
decreasing_by
  have := readMember_length ‹_›
  simp only [List.length_cons] at this
  omega

/-! ## The whole text -/

/-- Reads a configuration. -/
def read : List Token → Except Fault (Config × List Token)
  | .opening .object :: .closing .object :: rest => .ok ({}, rest)
  | .opening .object :: tokens => readMembers {} tokens
  | .opening .list :: .closing .list :: rest => .ok ({}, rest)
  | .opening .list :: tokens => readList {} Field.all (.comma :: tokens)
  | token :: _ =>
    match token.met? with
    | none => .error .malformed
    | some met => .error (.wrongType met .config)
  | [] => .error .malformed

/-- The configuration that the text holds, and nothing behind it. -/
def ofJson (text : Text) : Except Fault Config :=
  match read (lex text) with
  | .ok (config, []) => .ok config
  | .ok _ => .error .malformed
  | .error fault => .error fault

end Config

end VpnTray
