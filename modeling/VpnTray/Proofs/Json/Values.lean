import VpnTray.Json.Skip
import VpnTray.Proofs.Json.Spelling

/-!
# Values

The tokens of a value are those of a single one, or of a list or an object of other values. A
value is skipped as a whole, whatever its depth and whatever follows it (`skip?_append`), as the
brackets that are open where it begins are open again where it ends.

* `enclosed`: the tokens of some parts between brackets, with commas between them;
* `IsValue`: the tokens of a value.
-/

namespace VpnTray.Json

/-- The tokens of some parts between brackets, with commas between them. -/
def enclosed (frame : Frame) (parts : List (List Token)) : List Token :=
  .opening frame :: ([Token.comma].intercalate parts ++ [.closing frame])

/-- A member of an object: the pieces of its name, and the tokens of its value. -/
structure Member where
  name : List Piece
  value : List Token

/-- The tokens of a member. -/
def Member.tokens (member : Member) : List Token := .string member.name :: .colon :: member.value

/-- The tokens of an object. -/
def objectOf (members : List Member) : List Token := enclosed .object (members.map Member.tokens)

/-- The tokens of a value. -/
inductive IsValue : List Token → Prop
  | null : IsValue [.null]
  | bool (b : Bool) : IsValue [.bool b]
  | number (n : Number) : IsValue [.number n]
  | string (pieces : List Piece) : IsValue [.string pieces]
  | list {values : List (List Token)} :
    (∀ value ∈ values, IsValue value) → IsValue (enclosed .list values)
  | object {members : List Member} :
    (∀ member ∈ members, IsValue member.value) → IsValue (objectOf members)

/-- The first part comes by itself, and each of the others behind a comma. -/
theorem intercalate_comma_cons (part : List Token) (parts : List (List Token)) :
    [Token.comma].intercalate (part :: parts) = part ++ parts.flatMap (Token.comma :: ·) := by
  induction parts generalizing part with
  | nil => simp [List.intercalate]
  | cons next parts ih =>
    rw [List.intercalate_cons_cons, ih, List.flatMap_cons, List.append_assoc]
    rfl

theorem enclosed_nil (frame : Frame) : enclosed frame [] = [.opening frame, .closing frame] := rfl

theorem enclosed_cons (frame : Frame) (part : List Token) (parts : List (List Token)) :
    enclosed frame (part :: parts) =
      .opening frame :: (part ++ (parts.flatMap (Token.comma :: ·) ++ [.closing frame])) := by
  rw [enclosed, intercalate_comma_cons, List.append_assoc]

theorem mem_enclosed {frame : Frame} {parts : List (List Token)} {token : Token}
    (h : token ∈ enclosed frame parts) :
    token = .opening frame ∨ token = .comma ∨ token = .closing frame ∨
      ∃ part ∈ parts, token ∈ part := by
  cases parts with
  | nil =>
    rw [enclosed_nil] at h
    grind
  | cons part parts =>
    rw [enclosed_cons] at h
    grind

/-! ## Skipping -/

/-- What is expected behind an opening bracket. -/
def Frame.first : Frame → Expecting
  | .list => .firstElement
  | .object => .firstKey

/-- What is expected behind a comma. -/
def Frame.next : Frame → Expecting
  | .list => .value
  | .object => .key

section Enclosed

variable {frame : Frame} {stack : List Frame} {parts : List (List Token)}

theorem skipFrom_comma (tokens : List Token) :
    skipFrom .after (frame :: stack) (.comma :: tokens) =
      skipFrom frame.next (frame :: stack) tokens := by
  cases frame <;> rfl

/-- The parts behind commas are skipped, and the closing bracket. -/
theorem skipFrom_others
    (hparts : ∀ part ∈ parts, ∀ rest, skipFrom frame.next (frame :: stack) (part ++ rest) =
      skipFrom .after (frame :: stack) rest) (rest : List Token) :
    skipFrom .after (frame :: stack)
      (parts.flatMap (Token.comma :: ·) ++ .closing frame :: rest) =
        skipFrom .after stack rest := by
  induction parts with
  | nil => cases frame <;> rfl
  | cons part parts ih =>
    rw [List.flatMap_cons, List.append_assoc, List.cons_append, skipFrom_comma,
      hparts part List.mem_cons_self]
    exact ih fun part hpart => hparts part (List.mem_cons_of_mem _ hpart)

/-- What is between brackets is skipped if its parts are, of which the first one may not be
    there. -/
theorem skipFrom_enclosed
    (hfirst : ∀ part ∈ parts, ∀ rest, skipFrom frame.first (frame :: stack) (part ++ rest) =
      skipFrom frame.next (frame :: stack) (part ++ rest))
    (hparts : ∀ part ∈ parts, ∀ rest, skipFrom frame.next (frame :: stack) (part ++ rest) =
      skipFrom .after (frame :: stack) rest) (rest : List Token) :
    skipFrom .value stack (enclosed frame parts ++ rest) = skipFrom .after stack rest := by
  have hopening : ∀ tokens, skipFrom .value stack (.opening frame :: tokens) =
      skipFrom frame.first (frame :: stack) tokens := fun _ => by cases frame <;> rfl
  cases parts with
  | nil =>
    rw [enclosed_nil, List.cons_append, hopening]
    cases frame <;> rfl
  | cons part parts =>
    rw [enclosed_cons, List.cons_append, hopening, List.append_assoc, List.append_assoc,
      hfirst part List.mem_cons_self, hparts part List.mem_cons_self]
    exact skipFrom_others (fun part hpart => hparts part (List.mem_cons_of_mem _ hpart)) rest

end Enclosed

/-- Where the first element of a list is expected, a value is skipped like anywhere. -/
theorem skipFrom_firstElement {value : List Token} (h : IsValue value) (stack : List Frame)
    (rest : List Token) :
    skipFrom .firstElement stack (value ++ rest) = skipFrom .value stack (value ++ rest) := by
  cases h <;> rfl

theorem skipFrom_value {value : List Token} (h : IsValue value) (stack : List Frame)
    (rest : List Token) :
    skipFrom .value stack (value ++ rest) = skipFrom .after stack rest := by
  -- The parts of a value are skipped with one more bracket open, so the stack is arbitrary.
  induction h generalizing stack rest with
  | null => rfl
  | bool => rfl
  | number => rfl
  | string => rfl
  | @list values hvalues ih =>
    refine skipFrom_enclosed ?_ ?_ rest
    · exact fun value hvalue => skipFrom_firstElement (hvalues value hvalue) _
    · exact fun value hvalue => ih value hvalue _
  | @object members hmembers ih =>
    refine skipFrom_enclosed ?_ ?_ rest
    · rintro _ hpart rest
      obtain ⟨member, -, rfl⟩ := List.mem_map.1 hpart
      rfl
    · rintro _ hpart rest
      obtain ⟨member, hmember, rfl⟩ := List.mem_map.1 hpart
      exact ih member hmember _ rest

/-- A value is skipped up to its end. -/
theorem skip?_append {value : List Token} (h : IsValue value) (rest : List Token) :
    skip? (value ++ rest) = some rest := by
  rw [skip?, skipFrom_value h, skipFrom]

/-! ## Numbers in values -/

theorem apart_append {tokens rest : List Token} (htokens : Apart tokens) (hrest : Apart rest)
    (hnumber : ∀ token ∈ rest.head?, token.isNumber = false) : Apart (tokens ++ rest) :=
  htokens.append hrest fun _ _ next hnext _ => hnumber next hnext

theorem apart_cons {token : Token} {tokens : List Token} (htoken : token.isNumber = false)
    (htokens : Apart tokens) : Apart (token :: tokens) :=
  List.isChain_cons.2 ⟨fun _ _ hnumber => absurd hnumber (by simp [htoken]), htokens⟩

theorem apart_enclosed {frame : Frame} {parts : List (List Token)}
    (hparts : ∀ part ∈ parts, Apart part) : Apart (enclosed frame parts) := by
  have hhead : ∀ others : List (List Token),
      ∀ token ∈ (others.flatMap (Token.comma :: ·) ++ [Token.closing frame]).head?,
        token.isNumber = false := by
    intro others token htoken
    cases others <;> cases htoken <;> rfl
  have hothers : ∀ others : List (List Token), (∀ part ∈ others, Apart part) →
      Apart (others.flatMap (Token.comma :: ·) ++ [Token.closing frame]) := by
    intro others h
    induction others with
    | nil => exact .singleton _
    | cons part others ih =>
      rw [List.flatMap_cons, List.append_assoc]
      exact apart_append (apart_cons rfl (h part List.mem_cons_self))
        (ih fun part hpart => h part (List.mem_cons_of_mem _ hpart)) (hhead others)
  cases parts with
  | nil => exact apart_cons rfl (.singleton _)
  | cons part parts =>
    rw [enclosed_cons]
    refine apart_cons rfl (apart_append (hparts part List.mem_cons_self) ?_ (hhead parts))
    exact hothers parts fun part hpart => hparts part (List.mem_cons_of_mem _ hpart)

/-- No number comes right behind another one in a value. -/
theorem apart_of_isValue {value : List Token} (h : IsValue value) : Apart value := by
  induction h with
  | null => exact .singleton _
  | bool => exact .singleton _
  | number => exact .singleton _
  | string => exact .singleton _
  | list _ ih => exact apart_enclosed ih
  | object _ ih =>
    refine apart_enclosed fun part hpart => ?_
    obtain ⟨member, hmember, rfl⟩ := List.mem_map.1 hpart
    exact apart_cons rfl (apart_cons rfl (ih member hmember))

end VpnTray.Json
