import VpnTray.Client.Resource
import VpnTray.Proofs.Desktop

/-!
# Labels of resources

The user picks a resource by its label: the name, a bar, the address, and a mark if the user has
to authenticate. A label says of which name and address it was made as long as names hold no bar
and addresses do not themselves end like a mark (`Resource.Telling`, `label_inj`).

So the first resource with the label of another one is its equal in all that the label shows
(`exists_select?_label`). What the picker prints for a row is read back as the label
(`choice?_label`), even if the address is empty and the label ends with the blank before it.
-/

namespace VpnTray

open Text

/-- The bar determines what stands before it, where there is none, and what comes after it. -/
theorem append_bar_inj {s t u v : Text} (hs : '|' ∉ s) (ht : '|' ∉ t)
    (h : s ++ '|' :: u = t ++ '|' :: v) : s = t ∧ u = v := by
  -- If one of the two went on after the other, it would begin with the bar there.
  have hnil : ∀ {a b : Text} {c : Text}, '|' ∉ c → '|' :: a = c ++ '|' :: b → c = [] := by
    intro a b c hc heq
    cases c with
    | nil => rfl
    | cons x c => exact absurd ((List.cons.inj heq).1 ▸ List.mem_cons_self) hc
  rcases List.append_eq_append_iff.1 h with ⟨c, rfl, heq⟩ | ⟨c, rfl, heq⟩
  · obtain rfl := hnil (fun hc => ht (List.mem_append_right _ hc)) heq
    exact ⟨(List.append_nil _).symm, (List.cons.inj heq).2⟩
  · obtain rfl := hnil (fun hc => hs (List.mem_append_right _ hc)) heq
    exact ⟨List.append_nil _, (List.cons.inj heq).2.symm⟩

/-- What stands behind the address of a resource for which the user has to authenticate. -/
def lockMark : Text := " [Locked]"

namespace Resource

variable {resource other : Resource} {resources : List Resource}

/-- A resource of which the label tells all that is shown in it. -/
structure Telling (resource : Resource) : Prop where
  name : '|' ∉ resource.name
  address : ¬ lockMark <:+ resource.address

theorem label_eq (resource : Resource) :
    resource.label = (resource.name ++ [' ']) ++
      '|' :: ' ' :: (resource.address ++ if resource.needsAuth then lockMark else []) := by
  rw [label, List.append_assoc, List.append_assoc, List.append_assoc]
  rfl

/-- Labels of resources that differ in what is shown differ. -/
theorem label_inj (h : resource.Telling) (hother : other.Telling)
    (hlabel : resource.label = other.label) :
    resource.name = other.name ∧ resource.address = other.address ∧
      resource.needsAuth = other.needsAuth := by
  have hbar : ∀ {name : Text}, '|' ∉ name → '|' ∉ name ++ [' '] := by
    intro name hname
    rw [List.mem_append, not_or]
    exact ⟨hname, by decide⟩
  rw [label_eq, label_eq] at hlabel
  obtain ⟨hname, hrest⟩ := append_bar_inj (hbar h.name) (hbar hother.name) hlabel
  have hend := (List.cons.inj hrest).2
  refine ⟨List.append_cancel_right hname, ?_⟩
  -- A mark that only one of the two has would be the end of the address of the other.
  cases hlocked : resource.needsAuth with
  | true =>
    cases hlocked' : other.needsAuth with
    | true =>
      rw [hlocked, hlocked'] at hend
      exact ⟨List.append_cancel_right hend, rfl⟩
    | false =>
      rw [hlocked, hlocked', if_neg Bool.false_ne_true, List.append_nil] at hend
      exact absurd ⟨_, hend⟩ hother.address
  | false =>
    cases hlocked' : other.needsAuth with
    | true =>
      rw [hlocked, hlocked', if_neg Bool.false_ne_true, List.append_nil] at hend
      exact absurd ⟨_, hend.symm⟩ h.address
    | false =>
      rw [hlocked, hlocked', if_neg Bool.false_ne_true, List.append_nil, List.append_nil] at hend
      exact ⟨hend, rfl⟩

/-- Where all labels tell, the first resource with the label of one of them shows the same. -/
theorem exists_select?_label (htelling : ∀ resource ∈ resources, resource.Telling)
    (hmem : resource ∈ resources) :
    ∃ found, select? resources resource.label = some found ∧ found.name = resource.name ∧
      found.needsAuth = resource.needsAuth := by
  have hsome : (select? resources resource.label).isSome :=
    List.find?_isSome.2 ⟨resource, hmem, decide_eq_true rfl⟩
  obtain ⟨found, hfound⟩ := Option.isSome_iff_exists.1 hsome
  have hfirst := List.find?_some hfound
  have hlabel : found.label = resource.label := of_decide_eq_true hfirst
  obtain ⟨hname, -, hlocked⟩ :=
    label_inj (htelling _ (List.mem_of_find?_eq_some hfound)) (htelling _ hmem) hlabel
  exact ⟨found, hfound, hname, hlocked⟩

theorem select?_eq_none {row : Text} (h : ∀ resource ∈ resources, resource.label ≠ row) :
    select? resources row = none :=
  List.find?_eq_none.2 fun resource hmem => by simpa using h resource hmem

/-! ## What was printed -/

theorem ofRow?_eq_some {row : List Text} (h : ofRow? row = some resource) :
    ∃ name address rest, row = name :: address :: rest ∧ name ≠ [] ∧
      resource = make name address (authCell rest) := by
  match row with
  | [] | [_] => exact nomatch h
  | name :: address :: rest =>
    rw [ofRow?] at h
    split at h
    · exact nomatch h
    · next hname => exact ⟨name, address, rest, rfl, by simpa using hname, (Option.some.inj h).symm⟩

/-- An address in a table is a cell. -/
theorem trimmed_address {output : Text} (h : resource ∈ ofTable output) :
    Trimmed resource.address := by
  obtain ⟨line, -, hrow⟩ := List.mem_filterMap.1 h
  obtain ⟨name, address, rest, hcells, -, rfl⟩ := ofRow?_eq_some hrow
  have hmem : address ∈ cells (trim line) := by
    rw [hcells]
    exact List.mem_cons_of_mem _ List.mem_cons_self
  exact trimmed_of_mem_cells hmem

/-- A label is read back from what the picker has printed. -/
theorem choice?_label (h : Trimmed resource.address) :
    choice? (resource.label ++ ['\n']) = some resource.label := by
  refine choice?_append_newline (by simp [label_eq]) fun c hc => ?_
  rw [label_eq, List.getLast?_append, List.getLast?_cons_cons] at hc
  cases hlocked : resource.needsAuth with
  | true =>
    have hlast : (' ' :: (resource.address ++ lockMark)).getLast? = some ']' := by
      rw [← List.cons_append, List.getLast?_append]
      rfl
    rw [hlocked, if_pos rfl, hlast] at hc
    obtain rfl := Option.some.inj hc
    decide
  | false =>
    rw [hlocked, if_neg Bool.false_ne_true, List.append_nil] at hc
    cases haddress : resource.address.getLast? with
    | none =>
      -- Nothing stands behind the bar but a blank.
      rw [List.getLast?_eq_none_iff.1 haddress] at hc
      obtain rfl := Option.some.inj hc
      decide
    | some last =>
      rw [List.getLast?_cons, haddress] at hc
      obtain rfl := Option.some.inj hc
      exact ne_lineEnd (h.last _ haddress)

end Resource

end VpnTray
