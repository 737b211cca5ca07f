import VpnTray.Bus.Signature

/-!
# Signatures as texts

A signature can be read back, as no type begins like the end of another one:

* `readType_text`: a type is read back from its text, whatever comes after it;
* `typesOfText?_textOfList`: so are types in a row;
* `textOfList_injective`: no two rows of types have the same text.
-/

namespace VpnTray.Bus

namespace Signature

theorem toList_text_basic (type : Basic) : (basic type).text.toList = [type.letter] := by
  rw [text, String.toList_singleton]

theorem toList_text_array (element : Signature) :
    (array element).text.toList = 'a' :: element.text.toList := by
  rw [text, String.toList_append]
  rfl

theorem toList_text_dict (key value : Signature) :
    (dict key value).text.toList =
      'a' :: '\x7b' :: (key.text.toList ++ (value.text.toList ++ ['\x7d'])) := by
  rw [text, String.toList_append, String.toList_append, String.toList_append, List.append_assoc,
    List.append_assoc]
  rfl

theorem toList_text_struct (fields : List Signature) :
    (struct fields).text.toList = '(' :: ((textOfList fields).toList ++ [')']) := by
  rw [text, String.toList_append, String.toList_append, List.append_assoc]
  rfl

/-- No type begins like the entry of a dictionary or the end of a record. -/
theorem exists_toList_text (type : Signature) :
    ∃ c cs, type.text.toList = c :: cs ∧ c ≠ '\x7b' ∧ c ≠ ')' := by
  cases type with
  | basic type =>
    refine ⟨_, _, toList_text_basic type, ?_, ?_⟩ <;> cases type <;> decide
  | variant => exact ⟨'v', [], rfl, by decide, by decide⟩
  | array element => exact ⟨_, _, toList_text_array element, by decide, by decide⟩
  | dict key value => exact ⟨_, _, toList_text_dict key value, by decide, by decide⟩
  | struct fields => exact ⟨_, _, toList_text_struct fields, by decide, by decide⟩

end Signature

theorem toList_textOfList_cons (type : Signature) (types : List Signature) :
    (textOfList (type :: types)).toList = type.text.toList ++ (textOfList types).toList := by
  rw [textOfList, String.toList_append]

/-! ## Reading types back -/

theorem readType_letter (type : Basic) (depth : Nat) (cs : List Char) :
    readType (depth + 1) (type.letter :: cs) = some (.basic type, cs) := by
  cases type <;> rfl

theorem readType_array {depth : Nat} {element : Signature} {cs rest : List Char}
    (hcs : ∀ c ∈ cs.head?, c ≠ '\x7b') (h : readType depth cs = some (element, rest)) :
    readType (depth + 1) ('a' :: cs) = some (.array element, rest) := by
  rw [readType]
  · rw [h]
    rfl
  · rintro cs' rfl
    exact hcs _ rfl rfl

theorem readType_dict {depth : Nat} {key value : Signature} {cs cs' rest : List Char}
    (hkey : readType depth cs = some (key, cs'))
    (hvalue : readType depth cs' = some (value, '\x7d' :: rest)) :
    readType (depth + 1) ('a' :: '\x7b' :: cs) = some (.dict key value, rest) := by
  simp only [readType, hkey, hvalue, Option.bind_eq_bind, Option.bind_some]
  rfl

theorem readType_struct {depth : Nat} {fields : List Signature} {cs rest : List Char}
    (h : readFields depth cs = some (fields, rest)) :
    readType (depth + 1) ('(' :: cs) = some (.struct fields, rest) := by
  rw [readType, h]
  rfl

theorem readFields_cons {depth : Nat} {field : Signature} {fields : List Signature}
    {cs cs' rest : List Char} (hcs : ∀ c ∈ cs.head?, c ≠ ')')
    (hfield : readType depth cs = some (field, cs'))
    (hfields : readFields depth cs' = some (fields, rest)) :
    readFields (depth + 1) cs = some (field :: fields, rest) := by
  rw [readFields]
  · simp only [hfield, hfields, Option.bind_eq_bind, Option.bind_some]
    rfl
  · rintro cs' rfl
    exact hcs _ rfl rfl

mutual

/-- A type is read back from its text. -/
theorem readType_text (type : Signature) (depth : Nat) (rest : List Char)
    (h : type.text.toList.length ≤ depth) :
    readType depth (type.text.toList ++ rest) = some (type, rest) := by
  cases type with
  | basic type =>
    rw [Signature.toList_text_basic] at h ⊢
    obtain ⟨depth, rfl⟩ := Nat.exists_eq_add_one.2 h
    exact readType_letter type depth rest
  | variant =>
    obtain ⟨depth, rfl⟩ := Nat.exists_eq_add_one.2 h
    rfl
  | array element =>
    rw [Signature.toList_text_array] at h ⊢
    obtain ⟨depth, rfl⟩ := Nat.exists_eq_add_one.2 (Nat.zero_lt_of_lt h)
    -- An array whose element began with a brace would be read as a dictionary.
    refine readType_array ?_ (readType_text element depth rest (Nat.le_of_succ_le_succ h))
    obtain ⟨c, cs, htext, hc, -⟩ := element.exists_toList_text
    rw [htext]
    rintro _ ⟨⟩
    exact hc
  | dict key value =>
    rw [Signature.toList_text_dict] at h ⊢
    obtain ⟨depth, rfl⟩ := Nat.exists_eq_add_one.2 (Nat.zero_lt_of_lt h)
    simp only [List.length_cons, List.length_append] at h
    rw [List.cons_append, List.cons_append, List.append_assoc, List.append_assoc]
    exact readType_dict (readType_text key depth _ (by omega))
      (readType_text value depth _ (by omega))
  | struct fields =>
    rw [Signature.toList_text_struct] at h ⊢
    obtain ⟨depth, rfl⟩ := Nat.exists_eq_add_one.2 (Nat.zero_lt_of_lt h)
    simp only [List.length_cons, List.length_append] at h
    rw [List.cons_append, List.append_assoc]
    exact readType_struct (readFields_textOfList fields depth rest (by omega))

/-- The fields of a record are read back from their texts. -/
theorem readFields_textOfList (fields : List Signature) (depth : Nat) (rest : List Char)
    (h : (textOfList fields).toList.length < depth) :
    readFields depth ((textOfList fields).toList ++ ')' :: rest) = some (fields, rest) := by
  obtain ⟨depth, rfl⟩ := Nat.exists_eq_add_one.2 (Nat.zero_lt_of_lt h)
  cases fields with
  | nil => rfl
  | cons field fields =>
    obtain ⟨c, cs, htext, -, hc⟩ := field.exists_toList_text
    rw [toList_textOfList_cons, List.length_append] at h
    rw [toList_textOfList_cons, List.append_assoc]
    -- Each type has a character at least, so there is enough depth for the others.
    refine readFields_cons ?_ (readType_text field depth _ (by omega))
      (readFields_textOfList fields depth rest ?_)
    · rw [htext]
      rintro _ ⟨⟩
      exact hc
    · rw [htext, List.length_cons] at h
      omega

end

theorem readRow_textOfList (types : List Signature) {count : Nat}
    (h : (textOfList types).toList.length ≤ count) :
    readRow count (textOfList types).toList = some types := by
  induction types generalizing count with
  | nil => rw [textOfList, String.toList_empty, readRow]
  | cons type types ih =>
    obtain ⟨c, cs, htext, -, -⟩ := type.exists_toList_text
    rw [toList_textOfList_cons, List.length_append] at h
    have hcount : 0 < type.text.toList.length := by
      rw [htext]
      exact Nat.succ_pos _
    obtain ⟨count, rfl⟩ := Nat.exists_eq_add_one.2 (show 0 < count by omega)
    have htype := readType_text type (count + 1) (textOfList types).toList (by omega)
    have htypes : readRow count (textOfList types).toList = some types := ih (by omega)
    rw [toList_textOfList_cons, readRow]
    · simp only [htype, htypes, Option.bind_eq_bind, Option.bind_some]
      rfl
    · rw [htext]
      nofun

/-- A row of types is read back from its text. -/
theorem typesOfText?_textOfList (types : List Signature) :
    typesOfText? (textOfList types) = some types :=
  readRow_textOfList types (by rw [String.length_toList]; omega)

theorem textOfList_injective {types types' : List Signature}
    (h : textOfList types = textOfList types') : types = types' := by
  have hread := typesOfText?_textOfList types
  rw [h, typesOfText?_textOfList] at hread
  exact (Option.some.inj hread).symm

end VpnTray.Bus
