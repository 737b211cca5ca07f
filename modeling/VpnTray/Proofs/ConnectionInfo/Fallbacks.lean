import VpnTray.Proofs.ConnectionInfo.Independent
import VpnTray.Proofs.ConnectionInfo.NameServers

/-!
# Details that are not there

Each detail has a default, which is shown if the source of the detail does not tell it, and also if
what it tells is blank. Two of the thirteen are different: the security and the domain of the name
service are taken as they stand in the last line that begins in a fixed way. If nothing else is in
that line, nothing is shown for the detail (`filled_gathered`).
-/

namespace VpnTray

open Text

namespace ConnectionInfo

/-- The details of a connection, one by one. -/
inductive Detail
  | status
  | connectedSince
  | network
  | networkUrl
  | user
  | secureDns
  | clientVersion
  | interface
  | ipAddress
  | dnsServers
  | dnsDomain
  | routes
  | resources
deriving DecidableEq, Repr

/-- The last line of a text that begins in some way holds nothing else, but for blanks. -/
def EndsBare (start : String) (output : Text) : Prop :=
  ∃ before line after, lines output = before ++ line :: after ∧ trim line = start.toList ∧
    ∀ later ∈ after, ¬ start.toList <+: trim later

/-- What is shown for a text, unless it is missing or blank. -/
def textOr (fallback : Text) : Option Text → Text
  | none => fallback
  | some text => if Blank text then fallback else text

namespace Detail

/-- The source of a detail. -/
def source : Detail → Source
  | status | secureDns => .status
  | user | network | networkUrl => .account
  | clientVersion => .version
  | interface | ipAddress => .interface
  | dnsServers | dnsDomain => .dns
  | routes => .routes
  | resources => .resources
  | connectedSince => .start

/-- What is shown of a detail. -/
def value : Detail → ConnectionInfo → Text
  | status, info => info.status
  | connectedSince, info => info.connectedSince
  | network, info => info.network
  | networkUrl, info => info.networkUrl
  | user, info => info.user
  | secureDns, info => info.secureDns
  | clientVersion, info => info.clientVersion
  | interface, info => info.interface
  | ipAddress, info => info.ipAddress
  | dnsServers, info => info.dnsServers
  | dnsDomain, info => info.dnsDomain
  | routes, info => info.routes
  | resources, info => info.resources

/-- What is shown of a detail that is not told. -/
def fallback : Detail → Text
  | status => "Unknown"
  | _ => dash

/-- A cell of the row below the headings of a table. -/
def cell? (output : Text) (position : Nat) : Option Text :=
  (lines (trim output))[1]?.bind fun line => (cells line)[position]?

/-- What the output of its source tells of a detail. That may be a text in which there is nothing,
    as with a cell that is blank, or when there are no resources. -/
def told? (now : Int) (output : Text) : Detail → Option Text
  | status => lastOfLines? statusOfLine? output
  | connectedSince => (startTime? output).map (describeSince · now)
  | user => cell? output 0
  | network => cell? output 1
  | networkUrl => cell? output 2
  | secureDns => lastOfLines? secureDnsOfLine? output
  | clientVersion => version? output
  | interface => some interfaceName
  | ipAddress => address? output
  | dnsServers => servers? output
  | dnsDomain => domain? output
  | routes => routes? output
  | resources => some (['\n'].intercalate ((Resource.ofTable output).map resourceLine))

/-- How the lines begin that tell a detail, if it is taken as it stands behind that. -/
def start? : Detail → Option String
  | secureDns => some "Secure DNS:"
  | dnsDomain => some "DNS Domain:"
  | _ => none

variable (client : Client) (now : Int) (programs : Run → Outcome)

/-- What is read from the run of the source of a detail, unless the run fails. -/
def output? (detail : Detail) : Option Text :=
  detail.source.read client (programs (detail.source.run client))

/-- The source of a detail tells it in a line in which there is nothing of it. -/
def LeftEmpty (detail : Detail) : Prop :=
  ∃ start ∈ detail.start?, ∃ output ∈ detail.output? client programs, EndsBare start output

end Detail

/-- Details of a connection of which none is blank but those that are left empty. -/
structure Filled (client : Client) (now : Int) (programs : Run → Outcome)
    (info : ConnectionInfo) : Prop where
  /-- A detail is shown as its source tells it, or at its default. -/
  shown : ∀ detail : Detail, ¬ detail.LeftEmpty client programs →
    detail.value info =
      textOr detail.fallback ((detail.output? client programs).bind (detail.told? now))
  notBlank : ∀ detail : Detail, ¬ detail.LeftEmpty client programs → ¬ Blank (detail.value info)
  empty : ∀ detail : Detail, detail.LeftEmpty client programs → detail.value info = []

variable {client : Client} {now : Int} {programs : Run → Outcome} {detail : Detail}
  {start : String} {fallback line output text : Text} {told : Option Text}

/-! ## Texts that are not blank -/

theorem textOr_of_notBlank (h : ∀ text ∈ told, ¬ Blank text) :
    textOr fallback told = told.getD fallback := by
  cases told with
  | none => rfl
  | some text => exact if_neg (h text rfl)

theorem not_blank_textOr (h : ¬ Blank fallback) : ¬ Blank (textOr fallback told) := by
  cases told with
  | none => exact h
  | some text =>
    rw [textOr]
    split
    · exact h
    · next hblank => exact hblank

theorem not_blank_of_statusOfLine? (h : statusOfLine? line = some text) : ¬ Blank text := by
  rw [statusOfLine?] at h
  split at h
  · obtain rfl := Option.some.inj h
    decide
  · split at h
    · obtain rfl := Option.some.inj h
      decide
    · cases h

theorem not_blank_of_version? (h : version? output = some text) : ¬ Blank text := by
  obtain ⟨line, -, hline⟩ := Option.bind_eq_some_iff.1 h
  obtain ⟨hword, htext⟩ := Option.ite_none_right_eq_some.1 hline
  obtain rfl := Option.some.inj htext
  intro hblank
  rw [(trimmed_trim line).eq_nil_of_blank hblank] at hword
  exact absurd hword (by decide)

theorem mem_words_of_address? (h : address? output = some text) : text ∈ words output := by
  rw [address?] at h
  generalize words output = list at h ⊢
  fun_induction wordAfterInet? list with
  | case1 => cases h
  | case2 rest => exact List.mem_cons_of_mem _ (List.mem_of_head? h)
  | case3 word rest _ ih => exact List.mem_cons_of_mem word (ih h)

theorem not_blank_of_commaSeparated? {texts : List Text} (h : ∀ text ∈ texts, ¬ Blank text)
    (htext : commaSeparated? texts = some text) : ¬ Blank text := by
  rw [commaSeparated?] at htext
  split at htext
  · cases htext
  · next hne =>
    obtain rfl := Option.some.inj htext
    exact not_blank_intercalate _ h (by simpa using hne)

theorem not_blank_of_servers? (h : servers? output = some text) : ¬ Blank text := by
  rw [servers?_eq] at h
  refine not_blank_of_commaSeparated? (fun text htext => ?_) h
  obtain ⟨htrimmed, hne⟩ := trimmed_of_mem_serverLines (List.mem_eraseDups.1 htext)
  exact fun hblank => hne (htrimmed.eq_nil_of_blank hblank)

theorem not_blank_of_routes? (h : routes? output = some text) : ¬ Blank text := by
  refine not_blank_of_commaSeparated? (fun text htext => ?_) h
  obtain ⟨line, -, hline⟩ := List.mem_filterMap.1 htext
  exact not_blank_of_mem_words (List.mem_of_head? hline)

theorem not_blank_resourceLine (resource : Resource) : ¬ Blank (resourceLine resource) :=
  not_blank_of_mem (c := '(') (by simp [resourceLine]) (by decide)

theorem not_blank_describeSince (started now : Int) : ¬ Blank (describeSince started now) := by
  rw [describeSince]
  split
  · decide
  · refine not_blank_of_mem (c := '(') ?_ (by decide)
    exact List.mem_append_left _ (List.mem_append_left _ (List.mem_append_right _ (by decide)))

/-! ## The last line that tells a detail -/

theorem lastOfLines?_eq_some_iff {ofLine? : Text → Option Text} :
    lastOfLines? ofLine? output = some text ↔
      ∃ before line after, lines output = before ++ line :: after ∧
        ofLine? (trim line) = some text ∧ ∀ later ∈ after, ofLine? (trim later) = none :=
  getLast?_filterMap_eq_some_iff

/-- What follows a beginning in a line, without the blanks around it. -/
def behind? (start : String) (line : Text) : Option Text := (after? start line).map trim

theorem behind?_eq_none_iff : behind? start line = none ↔ ¬ start.toList <+: line := by
  rw [behind?, Option.map_eq_none_iff, after?, ← Option.not_isSome_iff_eq_none,
    List.isSome_isPrefixOf?_eq_isPrefixOf, List.isPrefixOf_iff_prefix]

/-- Nothing follows the beginning in a trimmed line if there is nothing else in that line. -/
theorem behind?_trim_eq_some_nil_iff (hstart : Trimmed start.toList) :
    behind? start (trim line) = some [] ↔ trim line = start.toList := by
  constructor
  · intro h
    obtain ⟨rest, hrest, hblank⟩ := Option.map_eq_some_iff.1 h
    have hline : start.toList ++ rest = trim line := List.isPrefixOf?_eq_some_iff_append_eq.1 hrest
    -- What is behind the beginning is blank, but a trimmed line has no blanks at its end.
    have htrim : trim (start.toList ++ rest) = trim start.toList :=
      trim_append_right (trim_eq_nil_iff.1 hblank)
    rwa [hline, (trimmed_trim line).trim_eq, hstart.trim_eq] at htrim
  · intro h
    have hrest : after? start (trim line) = some [] :=
      List.isPrefixOf?_eq_some_iff_append_eq.2 ((List.append_nil _).trans h.symm)
    rw [behind?, hrest]
    rfl

theorem lastOfLines?_behind?_eq_some_nil_iff (hstart : Trimmed start.toList) :
    lastOfLines? (behind? start) output = some [] ↔ EndsBare start output := by
  rw [lastOfLines?_eq_some_iff, EndsBare]
  simp only [behind?_trim_eq_some_nil_iff hstart, behind?_eq_none_iff]

theorem trimmed_of_lastOfLines?_behind? (h : lastOfLines? (behind? start) output = some text) :
    Trimmed text := by
  obtain ⟨-, line, -, -, hline, -⟩ := lastOfLines?_eq_some_iff.1 h
  obtain ⟨rest, -, rfl⟩ := Option.map_eq_some_iff.1 hline
  exact trimmed_trim rest

/-- A detail that is taken from the last such line is there, unless nothing else is in the line. -/
theorem getD_lastOfLines?_behind? (hstart : Trimmed start.toList) (h : ¬ EndsBare start output) :
    (lastOfLines? (behind? start) output).getD fallback =
      textOr fallback (lastOfLines? (behind? start) output) := by
  refine (textOr_of_notBlank fun text htext hblank => h ?_).symm
  have hnil := (trimmed_of_lastOfLines?_behind? htext).eq_nil_of_blank hblank
  exact (lastOfLines?_behind?_eq_some_nil_iff hstart).1 (hnil ▸ htext)

/-! ## Details -/

namespace Detail

theorem value_congr {info info' : ConnectionInfo}
    (h : detail.source.details info = detail.source.details info') :
    detail.value info = detail.value info' := by
  cases detail with
  | status | user | clientVersion | interface | dnsServers | routes | resources | connectedSince =>
    exact (List.cons.inj h).1
  | secureDns | network | ipAddress | dnsDomain => exact (List.cons.inj (List.cons.inj h).2).1
  | networkUrl => exact (List.cons.inj (List.cons.inj (List.cons.inj h).2).2).1

/-- A detail comes from its own source. -/
theorem value_gathered (detail : Detail) (client : Client) (now : Int) (programs : Run → Outcome) :
    detail.value (gathered client now programs) =
      (detail.output? client programs).elim detail.fallback fun output =>
        detail.value (detail.source.use now output {}) := by
  rw [value_congr (detail.source.details_gathered client now programs), Source.add, output?]
  cases detail.source.read client (programs (detail.source.run client)) with
  | none => cases detail <;> rfl
  | some output => rfl

theorem cellOrDash_eq (row : List Text) (position : Nat) (h : ∀ cell ∈ row, Trimmed cell) :
    cellOrDash row position = textOr dash row[position]? := by
  rw [cellOrDash]
  cases hcell : row[position]? with
  | none => rfl
  | some cell =>
    have htrimmed := h cell (List.mem_of_getElem? hcell)
    have hiff : cell.isEmpty ↔ Blank cell := by
      rw [List.isEmpty_iff, ← trim_eq_nil_iff, htrimmed.trim_eq]
    simp only [textOr, hiff]

theorem account_eq (output : Text) : (Account.ofTable? output).getD .unknown =
    ⟨textOr dash (cell? output 0), textOr dash (cell? output 1), textOr dash (cell? output 2)⟩ := by
  rw [Account.ofTable?, cell?, cell?, cell?]
  cases (lines (trim output))[1]? with
  | none => rfl
  | some line =>
    have htrimmed : ∀ cell ∈ cells line, Trimmed cell := fun _ => trimmed_of_mem_cells
    rw [Option.map_some, Option.getD_some, Account.ofRow, cellOrDash_eq _ _ htrimmed,
      cellOrDash_eq _ _ htrimmed, cellOrDash_eq _ _ htrimmed]
    rfl

theorem resources_eq (output : Text) : (Source.resources.use now output {}).resources =
    textOr dash (resources.told? now output) := by
  rw [Source.use, withResources]
  split
  · next h =>
    rw [told?, List.isEmpty_iff.1 h]
    rfl
  · next h =>
    have hlines : ((Resource.ofTable output).map resourceLine) ≠ [] := by simpa using h
    refine (if_neg (not_blank_intercalate _ ?_ hlines)).symm
    exact List.forall_mem_map.2 fun resource _ => not_blank_resourceLine resource

theorem connectedSince_eq (output : Text) : (Source.start.use now output {}).connectedSince =
    textOr dash (connectedSince.told? now output) := by
  rw [Source.use, withStart, told?]
  cases startTime? output with
  | none => rfl
  | some started => exact (if_neg (not_blank_describeSince started now)).symm

/-- Most details are shown as they are told, unless they are told as blank. -/
theorem value_use_of_start_eq_none (h : detail.start? = none) :
    detail.value (detail.source.use now output {}) =
      textOr detail.fallback (detail.told? now output) := by
  cases detail with
  | secureDns | dnsDomain => cases h
  | user => exact congrArg Account.user (account_eq output)
  | network => exact congrArg Account.network (account_eq output)
  | networkUrl => exact congrArg Account.url (account_eq output)
  | resources => exact resources_eq output
  | connectedSince => exact connectedSince_eq output
  | interface =>
    have hname : ∀ text ∈ some interfaceName, ¬ Blank text := by
      rintro _ ⟨⟩
      decide
    exact (textOr_of_notBlank hname).symm
  | status =>
    refine (textOr_of_notBlank fun text htext => ?_).symm
    obtain ⟨-, line, -, -, hline, -⟩ := lastOfLines?_eq_some_iff.1 htext
    exact not_blank_of_statusOfLine? hline
  | clientVersion => exact (textOr_of_notBlank fun _ => not_blank_of_version?).symm
  | ipAddress =>
    exact (textOr_of_notBlank fun _ h => not_blank_of_mem_words (mem_words_of_address? h)).symm
  | dnsServers => exact (textOr_of_notBlank fun _ => not_blank_of_servers?).symm
  | routes => exact (textOr_of_notBlank fun _ => not_blank_of_routes?).symm

/-- The others are shown as they stand in the last of their lines. -/
theorem value_use_of_mem_start (h : start ∈ detail.start?) :
    Trimmed start.toList ∧ detail.told? now output = lastOfLines? (behind? start) output ∧
      detail.value (detail.source.use now output {}) =
        (lastOfLines? (behind? start) output).getD detail.fallback := by
  cases detail with
  | secureDns | dnsDomain =>
    obtain rfl := Option.some.inj h
    exact ⟨by decide, rfl, rfl⟩
  | _ => cases h

theorem value_use (h : ∀ start ∈ detail.start?, ¬ EndsBare start output) :
    detail.value (detail.source.use now output {}) =
      textOr detail.fallback (detail.told? now output) := by
  cases hstart : detail.start? with
  | none => exact value_use_of_start_eq_none hstart
  | some start =>
    obtain ⟨htrimmed, htold, hvalue⟩ := value_use_of_mem_start hstart
    rw [hvalue, htold, getD_lastOfLines?_behind? htrimmed (h start hstart)]

theorem value_use_of_endsBare (hstart : start ∈ detail.start?) (h : EndsBare start output) :
    detail.value (detail.source.use now output {}) = [] := by
  obtain ⟨htrimmed, -, hvalue⟩ := value_use_of_mem_start hstart
  rw [hvalue, (lastOfLines?_behind?_eq_some_nil_iff htrimmed).2 h, Option.getD_some]

end Detail

/-- Whatever the programs do, a detail is blank only if it is left empty in the line that tells
    it. -/
theorem filled_gathered (client : Client) (now : Int) (programs : Run → Outcome) :
    Filled client now programs (gathered client now programs) := by
  have hshown : ∀ detail : Detail, ¬ detail.LeftEmpty client programs →
      detail.value (gathered client now programs) =
        textOr detail.fallback ((detail.output? client programs).bind (detail.told? now)) := by
    intro detail hleft
    rw [detail.value_gathered]
    cases houtput : detail.output? client programs with
    | none => rfl
    | some output =>
      exact Detail.value_use fun start hstart hbare => hleft ⟨start, hstart, output, houtput, hbare⟩
  refine ⟨hshown, fun detail hleft => ?notBlank, fun detail hleft => ?empty⟩
  case notBlank =>
    rw [hshown detail hleft]
    refine not_blank_textOr ?_
    cases detail <;> decide
  case empty =>
    obtain ⟨start, hstart, output, houtput, hbare⟩ := hleft
    rw [detail.value_gathered, Option.mem_def.1 houtput]
    exact Detail.value_use_of_endsBare hstart hbare

/-- Programs of which two tell something, and both of them end with a line in which the detail is
    missing. -/
def bareLines (client : Client) (r : Run) : Outcome :=
  if r = Source.status.run client then .finished true "Online\nSecure DNS:\n" []
  else if r = Source.dns.run client then .finished true "Link 4 (sdwan0)\n  DNS Domain: \n" []
  else .finished false [] []

/-- The two details are told as blank, and what is shown is not the default of each but nothing. -/
theorem gathered_bareLines :
    gathered ⟨"twingate"⟩ 0 (bareLines ⟨"twingate"⟩) =
      { status := "Online", secureDns := [], dnsDomain := [] } := by
  decide +kernel

end ConnectionInfo

end VpnTray
