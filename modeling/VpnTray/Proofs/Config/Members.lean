import VpnTray.Config.Reader
import VpnTray.Proofs.Json.Values

/-!
# The members of a configuration

Tokens are read from left to right, and how far a member goes is only found by reading it. If the
text is an object at all, it comes to the same as taking its members one by one: the tokens of each
count by themselves, whatever follows them.

* `Members.add`: what one member makes of what has been read;
* `ofJson_of_written`: the configuration in an object, as a fold over its members;
* `nodup_of_foldlM_add`: no setting occurs twice in an object that is read.
-/

namespace VpnTray.Config

open Json

theorem Field.read_cons (field : Field) (config : Config) (token : Token) (rest : List Token) :
    field.read config (token :: rest) =
      (field.read config [token]).map fun result => (result.1, rest) := by
  simp only [Field.read]
  cases token.met? with
  | none => rfl
  | some met =>
    dsimp only
    cases field.set config met <;> rfl

/-- No setting is a list or an object. -/
theorem Field.read_opening (field : Field) (config : Config) (frame : Frame) :
    ∃ fault, field.read config [.opening frame] = .error fault := by
  cases field <;> cases frame <;> exact ⟨_, rfl⟩

theorem Field.read_enclosed (field : Field) (config : Config) (frame : Frame)
    (parts : List (List Token)) :
    ∃ fault, ∀ rest, field.read config (enclosed frame parts ++ rest) = .error fault := by
  obtain ⟨fault, hfault⟩ := Field.read_opening field config frame
  refine ⟨fault, fun rest => ?_⟩
  rw [enclosed, List.cons_append, Field.read_cons, hfault]
  rfl

/-- The value of a setting is one token, behind which all is left. -/
theorem Field.read_append {value : List Token} (h : IsValue value) (field : Field)
    (config : Config) (rest : List Token) :
    field.read config (value ++ rest) =
      (field.read config value).map fun result => (result.1, rest) := by
  have henclosed : ∀ frame parts, field.read config (enclosed frame parts ++ rest) =
      (field.read config (enclosed frame parts)).map fun result => (result.1, rest) := by
    intro frame parts
    obtain ⟨fault, hfault⟩ := Field.read_enclosed field config frame parts
    rw [hfault, ← List.append_nil (enclosed frame parts), hfault]
    rfl
  cases h with
  | list _ => exact henclosed _ _
  | object _ => exact henclosed _ _
  | _ => exact Field.read_cons field config _ rest

/-- What has been read with one more member. -/
def Members.add (members : Members) (member : Member) : Except Fault Members :=
  match textOf? member.name with
  | none => .error .malformed
  | some name =>
    match Field.ofName? name with
    | none => .ok members
    | some field =>
      if field ∈ members.seen then .error (.duplicate field.name)
      else
        (field.read members.config member.value).map fun result =>
          ⟨result.1, field :: members.seen⟩

theorem readMember_append {member : Member} (h : IsValue member.value) (members : Members)
    (rest : List Token) :
    readMember members (member.tokens ++ rest) = (members.add member).map (·, rest) := by
  rw [Member.tokens, List.cons_append, List.cons_append, readMember, Members.add]
  cases textOf? member.name with
  | none => rfl
  | some name =>
    dsimp only
    rw [readValue]
    cases Field.ofName? name with
    | none => simp only [behindColon, bind, Except.bind, skip?_append h, Except.map]
    | some field =>
      simp only [behindColon, bind, Except.bind, Field.read_append h]
      split
      · rfl
      · cases field.read members.config member.value <;> rfl

/-- Where an object goes on behind a member. -/
theorem readMembers_append {member : Member} (h : IsValue member.value) (members : Members)
    (rest : List Token) :
    readMembers members (member.tokens ++ .comma :: rest) =
      (members.add member).bind fun members => readMembers members rest := by
  rw [readMembers, readMember_append h]
  cases members.add member <;> rfl

theorem readMembers_append_closing {member : Member} (h : IsValue member.value) (members : Members)
    (rest : List Token) :
    readMembers members (member.tokens ++ .closing .object :: rest) =
      (members.add member).map fun members => (members.config, rest) := by
  rw [readMembers, readMember_append h]
  cases members.add member <;> rfl

/-- One or more members are read one after the other. -/
theorem readMembers_eq_foldlM {member : Member} {others : List Member}
    (hmember : IsValue member.value) (hothers : ∀ other ∈ others, IsValue other.value)
    (members : Members) :
    readMembers members (member.tokens ++
      ((others.map Member.tokens).flatMap (Token.comma :: ·) ++ [.closing .object])) =
        ((member :: others).foldlM Members.add members).map fun read => (read.config, []) := by
  induction others generalizing member members with
  | nil =>
    rw [List.map_nil, List.flatMap_nil, List.nil_append, readMembers_append_closing hmember,
      List.foldlM_cons]
    cases members.add member <;> rfl
  | cons next others ih =>
    rw [List.map_cons, List.flatMap_cons, List.append_assoc, List.cons_append,
      readMembers_append hmember, List.foldlM_cons]
    cases members.add member with
    | error fault => rfl
    | ok read =>
      exact ih (hothers next List.mem_cons_self)
        (fun other hother => hothers other (List.mem_cons_of_mem _ hother)) read

theorem read_objectOf {members : List Member} (h : ∀ member ∈ members, IsValue member.value) :
    read (objectOf members) =
      (members.foldlM Members.add {}).map fun read => (read.config, []) := by
  cases members with
  | nil => rfl
  | cons member others =>
    have hothers : ∀ other ∈ others, IsValue other.value :=
      fun other hother => h other (List.mem_cons_of_mem _ hother)
    rw [objectOf, List.map_cons, enclosed_cons,
      ← readMembers_eq_foldlM (h member List.mem_cons_self) hothers]
    rfl

/-- The configuration in an object is made from one member after the other. -/
theorem ofJson_of_written {members : List Member} {text : Text}
    (hvalues : ∀ member ∈ members, IsValue member.value)
    (hwritten : Written (objectOf members) text) :
    ofJson text = (members.foldlM Members.add {}).map Members.config := by
  rw [ofJson, lex_eq_of_written hwritten (apart_of_isValue (.object hvalues)),
    read_objectOf hvalues]
  cases members.foldlM Members.add {} <;> rfl

/-! ## Settings that occur twice -/

/-- The setting that a member is about. -/
def fieldOf? (member : Member) : Option Field := (textOf? member.name).bind Field.ofName?

/-- A member is added by a new name, if it is about a setting at all. -/
theorem seen_of_add {members after : Members} {member : Member}
    (h : members.add member = .ok after) :
    after.seen = (fieldOf? member).toList ++ members.seen ∧
      ∀ field ∈ fieldOf? member, field ∉ members.seen := by
  unfold Members.add at h
  unfold fieldOf?
  cases hname : textOf? member.name with
  | none =>
    rw [hname] at h
    cases h
  | some name =>
    rw [hname] at h
    dsimp only at h
    rw [Option.bind_some]
    cases hfield : Field.ofName? name with
    | none =>
      rw [hfield] at h
      cases h
      exact ⟨rfl, nofun⟩
    | some field =>
      rw [hfield] at h
      dsimp only at h
      split at h
      · cases h
      · next hnew =>
        cases hread : field.read members.config member.value with
        | error fault =>
          rw [hread] at h
          cases h
        | ok result =>
          rw [hread] at h
          cases h
          exact ⟨rfl, by rintro _ ⟨⟩; exact hnew⟩

/-- No setting occurs twice among the members that are read. -/
theorem nodup_of_foldlM_add {members : List Member} {read after : Members}
    (hread : read.seen.Nodup) (h : members.foldlM Members.add read = .ok after) :
    ((members.filterMap fieldOf?).reverse ++ read.seen).Nodup := by
  induction members generalizing read with
  | nil => exact hread
  | cons member members ih =>
    rw [List.foldlM_cons] at h
    cases hadd : read.add member with
    | error fault =>
      rw [hadd] at h
      cases h
    | ok next =>
      rw [hadd] at h
      obtain ⟨hseen, hnew⟩ := seen_of_add hadd
      cases hfield : fieldOf? member with
      | none =>
        rw [hfield, Option.toList_none, List.nil_append] at hseen
        rw [List.filterMap_cons_none hfield, ← hseen]
        exact ih (hseen ▸ hread) h
      | some field =>
        rw [hfield] at hseen
        have hnext : next.seen.Nodup := hseen ▸ List.nodup_cons.2 ⟨hnew field hfield, hread⟩
        have hnodup := ih hnext h
        rw [hseen] at hnodup
        rwa [List.filterMap_cons_some hfield, List.reverse_cons, List.append_assoc]

end VpnTray.Config
