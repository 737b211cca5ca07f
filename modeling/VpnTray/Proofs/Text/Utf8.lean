import VpnTray.Text.Utf8

/-!
# Text that was written is read back

A file that holds the bytes of a text is read as that text: decoding undoes encoding
(`decode?_toUTF8`). The proof goes character by character. The first byte of a form says how
many continuation bytes follow and keeps the leading bits of the character, each
continuation byte adds six bits, and what comes after the form is not looked at
(`partsFrom_utf8EncodeChar`).
-/

namespace VpnTray.Text.Utf8

/-- The role of the first byte of a part, by its number. -/
theorem first_ofNat {n : Nat} (h : n < 256) :
    first (.ofNat n) =
      if n < 0x80 then .alone (some (Char.ofNat n))
      else if n < 0xC2 then .alone none
      else if n < 0xE0 then .begins { bits := n - 0xC0, more := 0 }
      else if n < 0xF0 then .begins
        { bits := n - 0xE0, low := if n = 0xE0 then 0xA0 else 0x80,
          high := if n = 0xED then 0x9F else 0xBF, more := 1 }
      else if n < 0xF5 then .begins
        { bits := n - 0xF0, low := if n = 0xF0 then 0x90 else 0x80,
          high := if n = 0xF4 then 0x8F else 0xBF, more := 2 }
      else .alone none := by
  have hn : (UInt8.ofNat n).toNat = n := UInt8.toNat_ofNat_of_lt' h
  simp only [first, UInt8.lt_iff_toNat_lt, ← UInt8.toNat_inj, hn, UInt8.reduceToNat]
  grind

theorem partsFrom_alone {b : UInt8} {part : Option Char} (h : first b = .alone part)
    (bytes : List UInt8) : partsFrom none (b :: bytes) = part :: partsFrom none bytes := by
  rw [partsFrom, h]

theorem partsFrom_begins {b : UInt8} {pending : Pending} (h : first b = .begins pending)
    (bytes : List UInt8) : partsFrom none (b :: bytes) = partsFrom (some pending) bytes := by
  rw [partsFrom, h]

section Tail

variable {bits x : Nat} {low high : UInt8}

theorem tail_in_range (hx : x < 64) (hlow : low.toNat ≤ x + 0x80) (hhigh : x + 0x80 ≤ high.toNat) :
    (UInt8.ofNat (x + 0x80)).toNat = x + 0x80 ∧
      (decide (low ≤ .ofNat (x + 0x80)) && decide (.ofNat (x + 0x80) ≤ high)) = true := by
  have hn : (UInt8.ofNat (x + 0x80)).toNat = x + 0x80 :=
    UInt8.toNat_ofNat_of_lt' (Nat.lt_trans (Nat.add_lt_add_right hx _) (by decide))
  refine ⟨hn, ?_⟩
  rw [Bool.and_eq_true, decide_eq_true_iff, decide_eq_true_iff, UInt8.le_iff_toNat_le,
    UInt8.le_iff_toNat_le, hn]
  exact ⟨hlow, hhigh⟩

/-- The last continuation byte ends the form. -/
theorem partsFrom_last (hx : x < 64) (hlow : low.toNat ≤ x + 0x80) (hhigh : x + 0x80 ≤ high.toNat)
    (bytes : List UInt8) :
    partsFrom (some { bits, low, high, more := 0 }) (.ofNat (x + 0x80) :: bytes) =
      some (Char.ofNat (bits * 64 + x)) :: partsFrom none bytes := by
  obtain ⟨hn, hin⟩ := tail_in_range hx hlow hhigh
  rw [partsFrom, if_pos hin, hn, Nat.add_sub_cancel]

/-- A continuation byte before the last one adds its bits. -/
theorem partsFrom_next (hx : x < 64) (hlow : low.toNat ≤ x + 0x80) (hhigh : x + 0x80 ≤ high.toNat)
    (more : Nat) (bytes : List UInt8) :
    partsFrom (some { bits, low, high, more := more + 1 }) (.ofNat (x + 0x80) :: bytes) =
      partsFrom (some { bits := bits * 64 + x, more }) bytes := by
  obtain ⟨hn, hin⟩ := tail_in_range hx hlow hhigh
  rw [partsFrom, if_pos hin, hn, Nat.add_sub_cancel]

/-- The least byte that may come next depends on the first byte. -/
theorem toNat_ite_le {p : Prop} [Decidable p] (hlow : p → low.toNat ≤ x + 0x80)
    (hhigh : high.toNat ≤ x + 0x80) : (if p then low else high).toNat ≤ x + 0x80 := by
  split
  · next h => exact hlow h
  · exact hhigh

/-- The greatest byte that may come next depends on the first byte. -/
theorem le_toNat_ite {p : Prop} [Decidable p] (hlow : p → x + 0x80 ≤ low.toNat)
    (hhigh : x + 0x80 ≤ high.toNat) : x + 0x80 ≤ (if p then low else high).toNat := by
  split
  · next h => exact hlow h
  · exact hhigh

end Tail

/-- The form of a character is read as this character, whatever comes after it. -/
theorem partsFrom_utf8EncodeChar (c : Char) (bytes : List UInt8) :
    partsFrom none (String.utf8EncodeChar c ++ bytes) = some c :: partsFrom none bytes := by
  have hvalid : c.val.toNat < 0xD800 ∨ 0xDFFF < c.val.toNat ∧ c.val.toNat < 0x110000 := c.valid
  have hc : Char.ofNat c.val.toNat = c := c.ofNat_toNat
  rw [String.utf8EncodeChar]
  generalize c.val.toNat = v at hvalid hc ⊢
  split
  case isTrue hone =>
    have hfirst := first_ofNat (n := v) (by omega)
    rw [if_pos (by omega), hc] at hfirst
    exact partsFrom_alone hfirst bytes
  split
  case isTrue htwo =>
    have hfirst := first_ofNat (n := v / 64 % 32 + 192) (by omega)
    rw [if_neg (by omega), if_neg (by omega), if_pos (by omega)] at hfirst
    have hv : (v / 64 % 32 + 192 - 0xC0) * 64 + v % 64 = v := by omega
    rw [List.cons_append, partsFrom_begins hfirst, List.cons_append,
      partsFrom_last (by omega) (Nat.le_add_left _ _) (by simp; omega), hv, hc]
    rfl
  split
  case isTrue hthree =>
    have hfirst := first_ofNat (n := v / 4096 % 16 + 224) (by omega)
    rw [if_neg (by omega), if_neg (by omega), if_neg (by omega), if_pos (by omega)] at hfirst
    have hv : ((v / 4096 % 16 + 224 - 0xE0) * 64 + v / 64 % 64) * 64 + v % 64 = v := by omega
    rw [List.cons_append, partsFrom_begins hfirst, List.cons_append,
      partsFrom_next (by omega) ?low ?high, List.cons_append,
      partsFrom_last (by omega) (Nat.le_add_left _ _) (by simp; omega), hv, hc]
    case low => exact toNat_ite_le (fun _ => by simp; omega) (by simp)
    case high => exact le_toNat_ite (fun _ => by simp; omega) (by simp; omega)
    rfl
  case isFalse hfour =>
    have hfirst := first_ofNat (n := v / 262144 % 8 + 240) (by omega)
    rw [if_neg (by omega), if_neg (by omega), if_neg (by omega), if_neg (by omega),
      if_pos (by omega)] at hfirst
    have hv : (((v / 262144 % 8 + 240 - 0xF0) * 64 + v / 4096 % 64) * 64 + v / 64 % 64) * 64 +
        v % 64 = v := by omega
    rw [List.cons_append, partsFrom_begins hfirst, List.cons_append,
      partsFrom_next (by omega) ?low ?high, List.cons_append,
      partsFrom_next (by omega) (Nat.le_add_left _ _) (by simp; omega), List.cons_append,
      partsFrom_last (by omega) (Nat.le_add_left _ _) (by simp; omega), hv, hc]
    case low => exact toNat_ite_le (fun _ => by simp; omega) (by simp)
    case high => exact le_toNat_ite (fun _ => by simp; omega) (by simp; omega)
    rfl

/-- Decoding undoes encoding. -/
theorem decode?_toUTF8 (cs : List Char) : decode? (String.ofList cs).toUTF8 = some cs := by
  have hparts : parts (String.ofList cs).toUTF8 = cs.map some := by
    rw [String.toUTF8_eq_toByteArray, String.toByteArray_ofList, List.utf8Encode, parts,
      List.data_toByteArray]
    change partsFrom none (cs.flatMap String.utf8EncodeChar) = _
    induction cs with
    | nil => rfl
    | cons c cs ih => rw [List.flatMap_cons, partsFrom_utf8EncodeChar, ih, List.map_cons]
  rw [decode?, hparts, List.mapM_map]
  exact List.mapM_pure.trans (congrArg some cs.map_id)

end VpnTray.Text.Utf8
