import Mathlib.Data.List.Nodup
import Mathlib.Data.List.Perm.Basic
import Mathlib.Data.List.ReduceOption
import VpnTray.Daemon
import VpnTray.Proofs.Config.Members
import VpnTray.Proofs.Files.Frame
import VpnTray.Proofs.Text.Number

/-!
# Configurations as they are given

A configuration file gives some of the settings, by members in any order, among members by other
names that hold anything, with blanks anywhere and strings in any of their spellings. Whatever it
looks like, loading it finds just what is given, and the defaults for the rest. A setting that is
given twice is refused, and so is an interval of zero; and as no interval on the command line is
zero, none ever is.

* `Given`: what a file gives, and `Given.config` the configuration that it makes;
* `Gives`: the members that give a setting, and those that give none;
* `FileOf`: the texts of the files that give something, of which there is one for everything that
  can be given (`exists_fileOf`);
* `Faithful`: what loading keeps to, whatever the file (`faithful_load`).
-/

namespace VpnTray.Config

open Json Text

/-! ## What is given -/

/-- A setting with its value. -/
inductive Setting
  | pollInterval (millis : UInt64)
  | notifications (shown : Bool)
  | notificationTimeout (millis : UInt32)
  | client (program : Text)

namespace Setting

/-- Which setting it is. -/
def field : Setting → Field
  | pollInterval _ => .pollInterval
  | notifications _ => .notifications
  | notificationTimeout _ => .notificationTimeout
  | client _ => .client

/-- The configuration with the setting. -/
def apply (config : Config) : Setting → Config
  | pollInterval millis => { config with pollIntervalMs := millis }
  | notifications shown => { config with notifications := shown }
  | notificationTimeout millis => { config with notificationTimeoutMs := millis }
  | client program => { config with client := program }

end Setting

/-- What a file gives: some of the settings. -/
structure Given where
  pollIntervalMs : Option UInt64 := none
  notifications : Option Bool := none
  notificationTimeoutMs : Option UInt32 := none
  client : Option Text := none

namespace Given

/-- The settings that are given. -/
def settings (given : Given) : List Setting :=
  (given.pollIntervalMs.map .pollInterval).toList ++
    (given.notifications.map .notifications).toList ++
    (given.notificationTimeoutMs.map .notificationTimeout).toList ++
    (given.client.map .client).toList

/-- What is given, with the defaults for the rest. -/
def config (given : Given) : Config where
  pollIntervalMs := given.pollIntervalMs.getD 500
  notifications := given.notifications.getD true
  notificationTimeoutMs := given.notificationTimeoutMs.getD 5000
  client := given.client.getD "twingate"

end Given

/-! ## How it is written -/

/-- The token of a whole number without anything but its digits. -/
def plainNumber (n : Nat) : Token := .number ⟨false, decimal n, [], none⟩

/-- The values that a setting may be given by. -/
inductive Setting.Value : Setting → List Token → Prop
  | pollInterval (millis : UInt64) : Value (.pollInterval millis) [plainNumber millis.toNat]
  | notifications (shown : Bool) : Value (.notifications shown) [.bool shown]
  | notificationTimeout (millis : UInt32) :
    Value (.notificationTimeout millis) [plainNumber millis.toNat]
  | client {program : Text} {pieces : List Piece} :
    Spelled Stands program pieces → Value (.client program) [.string pieces]

/-- The members that give a setting, or none: these have a name that is not that of a setting,
    and any value. -/
inductive Gives : Member → Option Setting → Prop
  | setting {setting : Setting} {name : List Piece} {value : List Token} :
    Spelled Stands setting.field.name.toList name → setting.Value value →
      Gives ⟨name, value⟩ (some setting)
  | other {text : Text} {name : List Piece} {value : List Token} :
    (∀ field : Field, field.name.toList ≠ text) → Spelled Stands text name → IsValue value →
      Gives ⟨name, value⟩ none

/-- The texts of the files that give something, each setting once. -/
def FileOf (given : Given) (text : Text) : Prop :=
  ∃ members settings, List.Forall₂ Gives members settings ∧
    settings.reduceOption.Perm given.settings ∧ Written (objectOf members) text

/-! ## Reading what is given -/

theorem met?_plainNumber {n : Nat} (h : n < UInt64.size) :
    (plainNumber n).met? = some (.number (.integer n)) := by
  have hvalue : Nat.ofDigitChars 10 (decimal n) 0 = n := Nat.ofDigitChars_ten_toDigits
  simp [plainNumber, Token.met?, Number.value?, hvalue, h]

theorem word_integer {bound n : Nat} (h : n < bound) (wanted : Wanted) :
    word bound wanted (.number (.integer n)) = .ok n :=
  if_pos ⟨Int.natCast_nonneg n, Int.ofNat_lt.2 h⟩

theorem Setting.Value.isValue {setting : Setting} {value : List Token} (h : setting.Value value) :
    IsValue value := by
  cases h <;> constructor

theorem read_of_met {token : Token} {met : Met} {field : Field} {config after : Config}
    (hmet : token.met? = some met) (hset : field.set config met = .ok after) :
    field.read config [token] = .ok (after, []) := by
  simp only [Field.read, hmet, hset]

/-- The value of a setting is read as it is. -/
theorem Setting.Value.read {setting : Setting} {value : List Token} (h : setting.Value value)
    (config : Config) : setting.field.read config value = .ok (setting.apply config, []) := by
  cases h with
  | pollInterval millis =>
    refine read_of_met (met?_plainNumber millis.toNat_lt_size) ?_
    rw [field, Field.set, word_integer millis.toNat_lt_size, Except.map, UInt64.ofNat_toNat]
    rfl
  | notifications shown => rfl
  | notificationTimeout millis =>
    have hlt : millis.toNat < UInt64.size := Nat.lt_trans millis.toNat_lt_size (by decide)
    refine read_of_met (met?_plainNumber hlt) ?_
    rw [field, Field.set, word_integer millis.toNat_lt_size, Except.map, UInt32.ofNat_toNat]
    rfl
  | @client program pieces hpieces =>
    have hmet : (Token.string pieces).met? = some (.string program) := by
      rw [Token.met?, textOf?_eq_of_spelled hpieces, Option.map_some]
    exact read_of_met hmet rfl

theorem Gives.isValue {member : Member} {setting : Option Setting} (h : Gives member setting) :
    IsValue member.value := by
  cases h with
  | setting _ hvalue => exact hvalue.isValue
  | other _ _ hvalue => exact hvalue

theorem ofName?_eq_none {text : Text} (h : ∀ field : Field, field.name.toList ≠ text) :
    Field.ofName? text = none := by
  simpa [Field.ofName?] using fun field _ => h field

theorem add_of_gives_setting {member : Member} {setting : Setting}
    (h : Gives member (some setting)) {members : Members} (hnew : setting.field ∉ members.seen) :
    members.add member = .ok ⟨setting.apply members.config, setting.field :: members.seen⟩ := by
  cases h with
  | setting hname hvalue =>
    simp [Members.add, textOf?_eq_of_spelled hname, hnew, hvalue.read, Except.map]

theorem add_of_gives_none {member : Member} (h : Gives member none) (members : Members) :
    members.add member = .ok members := by
  cases h with
  | other hother hname _ =>
    simp [Members.add, textOf?_eq_of_spelled hname, ofName?_eq_none hother]

/-- The members are read if they give no setting twice. -/
theorem foldlM_add_of_gives {members : List Member} {settings : List (Option Setting)}
    (h : List.Forall₂ Gives members settings) {read : Members}
    (hnew : ((settings.reduceOption.map Setting.field).reverse ++ read.seen).Nodup) :
    members.foldlM Members.add read =
      .ok ⟨settings.reduceOption.foldl Setting.apply read.config,
        (settings.reduceOption.map Setting.field).reverse ++ read.seen⟩ := by
  -- What was seen last comes first, so that a step moves a setting from one side to the other.
  induction h generalizing read with
  | nil => rfl
  | @cons member setting members settings hgives _ ih =>
    rw [List.foldlM_cons]
    cases setting with
    | none =>
      rw [List.reduceOption_cons_of_none] at hnew ⊢
      rw [add_of_gives_none hgives]
      exact ih hnew
    | some setting =>
      rw [List.reduceOption_cons_of_some, List.map_cons, List.reverse_cons,
        List.append_assoc] at hnew ⊢
      have hfield : setting.field ∉ read.seen := (List.nodup_cons.1 hnew.of_append_right).1
      rw [add_of_gives_setting hgives hfield]
      exact ih hnew

/-! ## What is given does not depend on the order -/

theorem nodup_settings (given : Given) : (given.settings.map Setting.field).Nodup := by
  obtain ⟨_ | _, _ | _, _ | _, _ | _⟩ := given <;> simp [Given.settings, Setting.field]

theorem foldl_settings (given : Given) :
    given.settings.foldl Setting.apply {} = given.config := by
  obtain ⟨_ | _, _ | _, _ | _, _ | _⟩ := given <;> rfl

/-- Different settings can be made in any order. -/
theorem apply_comm {setting other : Setting} (h : setting.field = other.field → setting = other)
    (config : Config) :
    other.apply (setting.apply config) = setting.apply (other.apply config) := by
  cases setting <;> cases other <;> first | rfl | rw [h rfl]

theorem foldl_of_perm {settings : List Setting} {given : Given} (h : settings.Perm given.settings) :
    settings.foldl Setting.apply {} = given.config := by
  have hnodup : (settings.map Setting.field).Nodup :=
    (h.map Setting.field).nodup_iff.2 (nodup_settings given)
  have hcomm : ∀ setting ∈ settings, ∀ other ∈ settings, ∀ config : Config,
      other.apply (setting.apply config) = setting.apply (other.apply config) :=
    fun _ hsetting _ hother config =>
      apply_comm (List.inj_on_of_nodup_map hnodup hsetting hother) config
  rw [h.foldl_eq' hcomm, foldl_settings]

theorem isValue_of_gives {members : List Member} {settings : List (Option Setting)}
    (h : List.Forall₂ Gives members settings) : ∀ member ∈ members, IsValue member.value := by
  induction h with
  | nil => exact nofun
  | cons hgives _ ih => exact List.forall_mem_cons.2 ⟨hgives.isValue, ih⟩

/-- What is given in a text is read. -/
theorem ofJson_of_fileOf {given : Given} {text : Text} (h : FileOf given text) :
    ofJson text = .ok given.config := by
  obtain ⟨members, settings, hgives, hperm, hwritten⟩ := h
  have hnew : ((settings.reduceOption.map Setting.field).reverse ++ []).Nodup := by
    rw [List.append_nil, List.nodup_reverse]
    exact (hperm.map Setting.field).nodup_iff.2 (nodup_settings given)
  rw [ofJson_of_written (isValue_of_gives hgives) hwritten, foldlM_add_of_gives hgives hnew]
  exact congrArg Except.ok (foldl_of_perm hperm)

/-! ## Everything can be given -/

theorem exists_gives (setting : Setting) :
    ∃ member, Gives member (some setting) ∧
      ∀ token ∈ member.tokens, ∃ text, token.Spells text := by
  obtain ⟨name, hname, written, hwritten⟩ := exists_spelled setting.field.name.toList
  have hvalue : ∃ value, setting.Value value ∧ ∀ token ∈ value, ∃ text, token.Spells text := by
    cases setting with
    | pollInterval millis =>
      exact ⟨_, .pollInterval millis,
        List.forall_mem_singleton.2 ⟨_, .number (Number.spells_decimal _)⟩⟩
    | notifications shown =>
      refine ⟨_, .notifications shown, List.forall_mem_singleton.2 ?_⟩
      cases shown
      · exact ⟨_, .isFalse⟩
      · exact ⟨_, .isTrue⟩
    | notificationTimeout millis =>
      exact ⟨_, .notificationTimeout millis,
        List.forall_mem_singleton.2 ⟨_, .number (Number.spells_decimal _)⟩⟩
    | client program =>
      obtain ⟨pieces, hpieces, written, hwritten⟩ := exists_spelled program
      exact ⟨_, .client hpieces, List.forall_mem_singleton.2 ⟨_, .string hwritten⟩⟩
  obtain ⟨value, hvalue, hspells⟩ := hvalue
  exact ⟨⟨name, value⟩, .setting hname hvalue,
    List.forall_mem_cons.2 ⟨⟨_, .string hwritten⟩, List.forall_mem_cons.2 ⟨⟨_, .colon⟩, hspells⟩⟩⟩

/-- Everything can be given. -/
theorem exists_fileOf (given : Given) : ∃ text, FileOf given text := by
  have hmembers : ∀ settings : List Setting, ∃ members,
      List.Forall₂ Gives members (settings.map some) ∧
        ∀ member ∈ members, ∀ token ∈ member.tokens, ∃ text, token.Spells text := by
    intro settings
    induction settings with
    | nil => exact ⟨[], .nil, nofun⟩
    | cons setting settings ih =>
      obtain ⟨member, hgives, hspells⟩ := exists_gives setting
      obtain ⟨members, hmembers, hall⟩ := ih
      exact ⟨member :: members, .cons hgives hmembers, List.forall_mem_cons.2 ⟨hspells, hall⟩⟩
  obtain ⟨members, hgives, hspells⟩ := hmembers given.settings
  have htokens : ∀ token ∈ objectOf members, ∃ text, token.Spells text := by
    intro token htoken
    obtain rfl | rfl | rfl | ⟨part, hpart, htoken⟩ := mem_enclosed htoken
    · exact ⟨_, .openObject⟩
    · exact ⟨_, .comma⟩
    · exact ⟨_, .closeObject⟩
    · obtain ⟨member, hmember, rfl⟩ := List.mem_map.1 hpart
      exact hspells member hmember token htoken
  obtain ⟨text, hwritten⟩ := exists_written htokens
  have hsettings : (given.settings.map some).reduceOption = given.settings := by
    rw [List.reduceOption, List.filterMap_map]
    exact List.filterMap_some
  exact ⟨text, members, given.settings.map some, hgives, .of_eq hsettings, hwritten⟩

/-! ## What is given twice -/

theorem fieldOf?_of_spelled {member : Member} {field : Field}
    (h : Spelled Stands field.name.toList member.name) : fieldOf? member = some field := by
  rw [fieldOf?, textOf?_eq_of_spelled h, Option.bind_some, Field.ofName?_name]

/-- An object with two members by the name of one setting is refused. -/
theorem ofJson_of_twice {members : List Member} {text : Text} {field : Field}
    {first second : Member} (hvalues : ∀ member ∈ members, IsValue member.value)
    (hwritten : Written (objectOf members) text) (htwice : [first, second].Sublist members)
    (hfirst : Spelled Stands field.name.toList first.name)
    (hsecond : Spelled Stands field.name.toList second.name) :
    ∃ fault, ofJson text = .error fault := by
  rw [ofJson_of_written hvalues hwritten]
  cases hread : members.foldlM Members.add {} with
  | error fault => exact ⟨fault, rfl⟩
  | ok read =>
    -- Nothing that was read has the setting twice, as the members do.
    have hnodup : (members.filterMap fieldOf?).Nodup := by
      have h := nodup_of_foldlM_add List.nodup_nil hread
      rwa [List.append_nil, List.nodup_reverse] at h
    have hfields : [field, field].Sublist (members.filterMap fieldOf?) := by
      have h := htwice.filterMap fieldOf?
      rwa [List.filterMap_cons_some (fieldOf?_of_spelled hfirst),
        List.filterMap_cons_some (fieldOf?_of_spelled hsecond)] at h
    exact absurd List.mem_cons_self (List.nodup_cons.1 (hnodup.sublist hfields)).1

/-! ## The interval -/

theorem interval?_ne_zero {value : Text} {millis : UInt64} (h : interval? value = some millis) :
    millis ≠ 0 := by
  obtain ⟨n, hn, rfl⟩ := Option.map_eq_some_iff.1 h
  obtain ⟨hread, hpos⟩ := Option.filter_eq_some_iff.1 hn
  have hn : (UInt64.ofNat n).toNat = n :=
    UInt64.toNat_ofNat_of_lt' (readBelow?_eq_some_iff.1 hread).1
  intro hzero
  rw [hzero] at hn
  exact absurd hn (Nat.ne_of_lt (of_decide_eq_true hpos))

theorem refreshInterval_of_set? {options changed : TrayOptions} {value : Text}
    {option : TrayOption} (hoptions : options.refreshInterval ≠ some 0)
    (h : options.set? value option = some changed) : changed.refreshInterval ≠ some 0 := by
  cases option with
  | refreshInterval =>
    obtain ⟨_, _, hset⟩ := Option.bind_eq_some_iff.1 h
    obtain ⟨millis, hmillis, hchanged⟩ := Option.bind_eq_some_iff.1 hset
    cases hchanged
    exact fun hzero => interval?_ne_zero hmillis (Option.some.inj hzero)
  | notifications =>
    obtain ⟨_, _, hset⟩ := Option.bind_eq_some_iff.1 h
    obtain ⟨shown, _, hchanged⟩ := Option.bind_eq_some_iff.1 hset
    cases hchanged
    exact hoptions

/-- No interval on a command line is zero. -/
theorem refreshInterval_of_read {options read : TrayOptions} {arguments : List Text}
    (hoptions : options.refreshInterval ≠ some 0) (h : options.read arguments = .run read) :
    read.refreshInterval ≠ some 0 := by
  -- Reading goes on only with options that were set, and these keep the bound.
  fun_induction TrayOptions.read options arguments with
  | case1 =>
    cases h
    exact hoptions
  | case2 => cases h
  | case3 =>
    cases h
    exact hoptions
  | case4 => cases h
  | case5 => cases h
  | case6 _ _ _ _ _ _ _ _ _ hset ih => exact ih (refreshInterval_of_set? hoptions hset) h
  | case7 => cases h
  | case8 _ _ _ _ _ _ _ _ _ hset ih => exact ih (refreshInterval_of_set? hoptions hset) h
  | case9 => cases h

theorem pollInterval_pos {config : Config} (h : config.pollIntervalMs ≠ 0) :
    0 < config.pollInterval.nanos := by
  have hmillis : 0 < config.pollIntervalMs.toNat :=
    Nat.pos_of_ne_zero fun hzero => h (UInt64.toNat.inj hzero)
  exact Nat.mul_pos hmillis (by decide)

theorem getD_ne_zero {millis : Option UInt64} {default : UInt64} (h : millis ≠ some 0)
    (hdefault : default ≠ 0) : millis.getD default ≠ 0 := by
  cases millis with
  | none => exact hdefault
  | some millis => exact fun hzero => h (congrArg some hzero)

/-- No option makes an interval zero. -/
theorem pollIntervalMs_configured {options : TrayOptions} {config : Config}
    (hoptions : options.refreshInterval ≠ some 0) (hconfig : config.pollIntervalMs ≠ 0) :
    (Daemon.configured options config).pollIntervalMs ≠ 0 :=
  getD_ne_zero hoptions hconfig

/-! ## Loading -/

theorem lookup_of_read {files : Files} {path : Path} {text : Text}
    (h : files.read path = .ok text) : ∃ node, files.lookup path = .ok node := by
  obtain ⟨content, hreadable, -⟩ := Files.read_eq_ok_iff.1 h
  exact ⟨.file content, hreadable.lookup_eq⟩

theorem load_of_fault {files : Files} {path : Path} {text : Text} {fault : Fault}
    (h : files.read path = .ok text) (hfault : ofJson text = .error fault) :
    load files path = .error (.config path fault) := by
  obtain ⟨node, hnode⟩ := lookup_of_read h
  simp only [load, hnode, h, hfault]

theorem load_of_ofJson {files : Files} {path : Path} {text : Text} {config : Config}
    (h : files.read path = .ok text) (hconfig : ofJson text = .ok config)
    (hinterval : config.pollIntervalMs ≠ 0) : load files path = .ok config := by
  obtain ⟨node, hnode⟩ := lookup_of_read h
  simp only [load, hnode, h, hconfig, if_neg hinterval]

/-- What loading a configuration keeps to. -/
structure Faithful (files : Files) (path : Path) : Prop where
  /-- Everything can be given. -/
  text : ∀ given, ∃ text, FileOf given text
  /-- What is given is loaded, and the defaults for the rest. -/
  given : ∀ given text, FileOf given text → given.pollIntervalMs ≠ some 0 →
    files.read path = .ok text → load files path = .ok given.config
  /-- No interval that is loaded is zero. -/
  interval : ∀ config, load files path = .ok config → config.pollIntervalMs ≠ 0
  /-- Nor is any that the tray takes from the file and the command line. -/
  timer : ∀ (daemon : Daemon) arguments options config, daemon.configPath = path →
    TrayOptions.read {} arguments = .run options →
      ((daemon.load options).run files).1 = .ok config → 0 < config.pollInterval.nanos
  /-- An object that gives a setting twice is refused. -/
  once : ∀ members text field first second, (∀ member ∈ members, IsValue member.value) →
    Written (objectOf members) text → [first, second].Sublist members →
      Spelled Stands (Field.name field).toList first.name →
        Spelled Stands (Field.name field).toList second.name →
          files.read path = .ok text → ∃ fault, load files path = .error (.config path fault)

/-- Whatever a configuration looks like, what it gives is what is loaded. -/
theorem faithful_load (files : Files) (path : Path) : Faithful files path where
  text := exists_fileOf
  given given text hfile hinterval hread :=
    load_of_ofJson hread (ofJson_of_fileOf hfile) (getD_ne_zero hinterval (by decide))
  interval config h := pollIntervalMs_ne_zero_of_load h
  timer daemon arguments options config hpath hoptions hload := by
    subst hpath
    rw [Daemon.load, Stepped.run_get] at hload
    cases hconfig : load files daemon.configPath with
    | error cause =>
      rw [hconfig] at hload
      cases hload
    | ok loaded =>
      rw [hconfig] at hload
      cases hload
      exact pollInterval_pos (pollIntervalMs_configured (refreshInterval_of_read (by simp) hoptions)
        (pollIntervalMs_ne_zero_of_load hconfig))
  once members text field first second hvalues hwritten htwice hfirst hsecond hread := by
    obtain ⟨fault, hfault⟩ := ofJson_of_twice hvalues hwritten htwice hfirst hsecond
    exact ⟨fault, load_of_fault hread hfault⟩

end VpnTray.Config
