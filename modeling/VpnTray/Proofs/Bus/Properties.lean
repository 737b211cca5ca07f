import VpnTray.Proofs.Bus.Dispatch

/-!
# Properties and documents

What an object has to tell is registered apart from its document. The names and the types
agree (`typed_entries`), so that a property can be read if and only if the document declares
it, and has the declared type:

* `callAnswer_get_of_declares`, `callAnswer_getAll_of_declares`: what is read of what is
  declared;
* `callAnswer_get_of_not_declares`, `callAnswer_getAll_of_not_declares`: what is answered
  about anything else.
-/

namespace VpnTray.Bus

variable {kind : ObjectKind} {interface name type : String} {tray : Tray}

/-- Some properties of an interface are declared. -/
def DeclaresProperties (document interface : String) : Prop :=
  ∃ name type, DeclaresProperty document interface name type

/-- The properties that are registered have the names and the types of those that are declared. -/
theorem typed_entries (kind : ObjectKind) (tray : Tray) :
    (kind.entries.map fun entry => (entry.1, (entry.2.value tray).type)).Perm
      (kind.interface.properties.map fun property => (property.name, property.type)) := by
  cases kind with
  | menu => exact .refl _
  | item =>
    -- The last two are registered in the other order.
    have hswap := List.Perm.swap ("ItemIsMenu", Signature.boolean) ("Menu", Signature.objectPath) []
    exact hswap.append_left ((itemInterface.properties.take 13).map fun property =>
      (property.name, property.type))

theorem declaresProperty_entries (tray : Tray) :
    DeclaresProperty kind.object.document interface name type ↔
      kind.interface.name = interface ∧ ∃ property, (name, property) ∈ kind.entries ∧
        (property.value tray).type.text = type := by
  rw [declaresProperty_object]
  refine and_congr_right fun _ => ?_
  constructor
  · rintro ⟨declared, hdeclared, rfl, rfl⟩
    have hmem := (typed_entries kind tray).mem_iff.2 (List.mem_map.2 ⟨declared, hdeclared, rfl⟩)
    obtain ⟨⟨name, property⟩, hentry, heq⟩ := List.mem_map.1 hmem
    obtain ⟨rfl, htype⟩ := Prod.mk.inj heq
    exact ⟨property, hentry, congrArg Signature.text htype⟩
  · rintro ⟨property, hentry, rfl⟩
    have hmem := (typed_entries kind tray).mem_iff.1 (List.mem_map.2 ⟨_, hentry, rfl⟩)
    obtain ⟨declared, hdeclared, heq⟩ := List.mem_map.1 hmem
    obtain ⟨hname, htype⟩ := Prod.mk.inj heq
    exact ⟨declared, hdeclared, hname, congrArg Signature.text htype⟩

theorem declaresProperties_object :
    DeclaresProperties kind.object.document interface ↔ kind.interface.name = interface := by
  constructor
  · rintro ⟨name, type, h⟩
    exact (declaresProperty_object.1 h).1
  · intro h
    obtain ⟨⟨name, property⟩, entries, hentries⟩ := List.exists_cons_of_ne_nil (entries_ne_nil kind)
    refine ⟨name, _, (declaresProperty_entries {}).2 ⟨h, property, ?_, rfl⟩⟩
    rw [hentries]
    exact List.mem_cons_self

/-! ## Reading one property -/

theorem callAnswer_get_of_declares
    (h : DeclaresProperty kind.object.document interface name type) (tray : Tray) :
    ∃ value,
      callAnswer kind.object .get [.string interface, .string name] tray = .ok (.value value) ∧
        value.type.text = type := by
  obtain ⟨rfl, property, hentry, htype⟩ := (declaresProperty_entries tray).1 h
  refine ⟨property.value tray, ?_, htype⟩
  rw [callAnswer_get, find_properties, (Names.lookup_eq_some_iff_mem (nodup_entries kind)).2 hentry]
  rfl

theorem callAnswer_get_of_not_declaresProperties
    (h : ¬DeclaresProperties kind.object.document interface) (name : String) (tray : Tray) :
    callAnswer kind.object .get [.string interface, .string name] tray =
      .error (.property (.unknownInterface interface)) := by
  have hne : interface ≠ kind.interface.name := fun heq => h (declaresProperties_object.2 heq.symm)
  rw [callAnswer_get, find_properties_of_ne hne]

theorem callAnswer_get_of_not_declares (h : DeclaresProperties kind.object.document interface)
    (hname : ∀ type, ¬DeclaresProperty kind.object.document interface name type) (tray : Tray) :
    callAnswer kind.object .get [.string interface, .string name] tray =
      .error (.property (.unknownProperty name)) := by
  obtain rfl := declaresProperties_object.1 h
  have hnone : kind.entries.lookup name = none := by
    rw [Option.eq_none_iff_forall_ne_some]
    intro property hproperty
    have hentry := (Names.lookup_eq_some_iff_mem (nodup_entries kind)).1 hproperty
    exact hname _ ((declaresProperty_entries tray).2 ⟨rfl, property, hentry, rfl⟩)
  rw [callAnswer_get, find_properties, hnone]
  rfl

/-! ## Reading all properties -/

theorem callAnswer_getAll_of_declares (h : DeclaresProperties kind.object.document interface)
    (tray : Tray) :
    ∃ values, callAnswer kind.object .getAll [.string interface] tray = .ok (.properties values) ∧
      (values.map Prod.fst).Nodup ∧ ∀ name type,
        (∃ value, (name, value) ∈ values ∧ value.type.text = type) ↔
          DeclaresProperty kind.object.document interface name type := by
  obtain rfl := declaresProperties_object.1 h
  obtain ⟨values, hrun, hperm⟩ :
      ∃ values, (kind.object.properties.getAll kind.interface.name).run tray = (.ok values, tray) ∧
        values.Perm (kind.entries.map fun entry => (entry.1, entry.2.value tray)) := by
    -- All of them are read in one state, as reading one changes nothing.
    rw [properties_object]
    exact Registry.run_getAll_ofList (entries_ne_nil kind) (nodup_entries kind)
      fun entry hentry => run_read_of_mem hentry tray
  refine ⟨values, by rw [callAnswer_getAll, hrun], ?_, fun name type => ?_⟩
  · have hnames := hperm.map Prod.fst
    rw [List.map_map] at hnames
    exact hnames.nodup_iff.2 (nodup_entries kind)
  · rw [declaresProperty_entries tray]
    constructor
    · rintro ⟨value, hmem, rfl⟩
      obtain ⟨⟨name, property⟩, hentry, heq⟩ := List.mem_map.1 (hperm.mem_iff.1 hmem)
      obtain ⟨rfl, rfl⟩ := Prod.mk.inj heq
      exact ⟨rfl, property, hentry, rfl⟩
    · rintro ⟨-, property, hentry, rfl⟩
      exact ⟨_, hperm.mem_iff.2 (List.mem_map.2 ⟨_, hentry, rfl⟩), rfl⟩

theorem callAnswer_getAll_of_not_declares
    (h : ¬DeclaresProperties kind.object.document interface) (tray : Tray) :
    callAnswer kind.object .getAll [.string interface] tray =
      .error (.property (.unknownInterface interface)) := by
  have hne : interface ≠ kind.interface.name := fun heq => h (declaresProperties_object.2 heq.symm)
  rw [callAnswer_getAll, properties_object, Registry.getAll_ofList_of_ne (entries_ne_nil kind) hne]
  rfl

end VpnTray.Bus
