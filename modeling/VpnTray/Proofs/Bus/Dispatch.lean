import VpnTray.Proofs.Bus.Answer
import VpnTray.Proofs.Bus.Declarations

/-!
# Methods by their names, and documents

The tables by which a method is found, and the document that an object shows, are written
apart from each other. They agree:

* `member?_eq_find?`: a method is found by its names if the interfaces of the object have it;
* `declares_object`, `declaresMethod_object`, `declaresProperty_object`: what the document
  of an object declares.
-/

namespace VpnTray.Bus

/-! ## The tables -/

theorem propertiesMember?_eq_find? (member : String) :
    propertiesMember? member = propertiesInterface.methods.find? (·.name = member) := by
  unfold propertiesMember?
  split
  · rfl
  · rfl
  · rfl
  · symm
    simp_all [propertiesInterface, Method.name, eq_comm]

theorem itemMember?_eq_find? (member : String) :
    itemMember? member = itemInterface.methods.find? (·.name = member) := by
  unfold itemMember?
  split
  iterate 4 rfl
  simp_all [itemInterface, Method.name, eq_comm]

theorem menuMember?_eq_find? (member : String) :
    menuMember? member = menuInterface.methods.find? (·.name = member) := by
  unfold menuMember?
  split
  iterate 7 rfl
  simp_all [menuInterface, Method.name, eq_comm]

theorem find?_singleton (method : Method) (member : String) :
    [method].find? (·.name = member) = if member = method.name then some method else none := by
  rw [List.find?_singleton]
  by_cases h : member = method.name
  · rw [if_pos h, if_pos (decide_eq_true h.symm)]
  · rw [if_neg h, if_neg fun heq => h (of_decide_eq_true heq).symm]

/-- A method is found by its names if the interfaces of the object have it. -/
theorem member?_eq_find? (kind : ObjectKind) (interface member : String) :
    kind.member? interface member =
      (kind.interfaces.find? (·.name = interface)).map fun declared =>
        declared.methods.find? (·.name = member) := by
  unfold ObjectKind.member?
  split
  · have hfind : kind.interfaces.find? (·.name = "org.freedesktop.DBus.Peer") =
        some peerInterface := by
      cases kind <;> rfl
    rw [hfind, Option.map_some, peerInterface, find?_singleton]
    rfl
  · have hfind : kind.interfaces.find? (·.name = "org.freedesktop.DBus.Introspectable") =
        some introspectableInterface := by
      cases kind <;> rfl
    rw [hfind, Option.map_some, introspectableInterface, find?_singleton]
    rfl
  · have hfind : kind.interfaces.find? (·.name = "org.freedesktop.DBus.Properties") =
        some propertiesInterface := by
      cases kind <;> rfl
    rw [hfind, Option.map_some, propertiesMember?_eq_find?]
  -- In the last two tables the interface is that of the object, so it comes first.
  · exact congrArg some (itemMember?_eq_find? member)
  · exact congrArg some (menuMember?_eq_find? member)
  · -- None of the five names is the one that is asked for.
    symm
    cases kind <;>
      simp_all [ObjectKind.interfaces, ObjectKind.interface, peerInterface, introspectableInterface,
        propertiesInterface, itemInterface, menuInterface, eq_comm]

/-! ## The documents of the objects -/

theorem isPlain_path (kind : ObjectKind) : IsPlain kind.object.path := by
  cases kind <;> decide

theorem isPlain_interface (kind : ObjectKind) : kind.interface.IsPlain := by
  cases kind with
  | item => exact ⟨by decide, by decide, by decide⟩
  | menu => exact ⟨by decide, by decide, by decide⟩

theorem isPlain_of_mem_interfaces {kind : ObjectKind} :
    ∀ interface ∈ kind.interfaces, interface.IsPlain := by
  rintro interface (_ | ⟨_, _ | ⟨_, _ | ⟨_, _ | ⟨_, ⟨⟩⟩⟩⟩⟩)
  · exact isPlain_interface kind
  · exact ⟨by decide, nofun, nofun⟩
  · exact ⟨by decide, nofun, nofun⟩
  · exact ⟨by decide, nofun, nofun⟩

theorem document_object (kind : ObjectKind) :
    kind.object.document = document kind.object.path kind.interfaces := by
  rw [Object.document, kind_object]

variable {kind : ObjectKind} {interface member name type inputs outputs : String}

theorem declares_object :
    Declares kind.object.document interface ↔
      ∃ declared ∈ kind.interfaces, declared.name = interface := by
  rw [document_object]
  exact declares_document (isPlain_path kind) isPlain_of_mem_interfaces

theorem declaresMethod_object :
    DeclaresMethod kind.object.document interface member inputs outputs ↔
      ∃ declared ∈ kind.interfaces, declared.name = interface ∧ ∃ method ∈ declared.methods,
        method.name = member ∧ textOfList method.inputTypes = inputs ∧
          textOfList method.outputTypes = outputs := by
  rw [document_object]
  exact declaresMethod_document (isPlain_path kind) isPlain_of_mem_interfaces

/-- Only the interface that an object is there for has properties. -/
theorem declaresProperty_object :
    DeclaresProperty kind.object.document interface name type ↔
      kind.interface.name = interface ∧ ∃ property ∈ kind.interface.properties,
        property.name = name ∧ property.type.text = type := by
  rw [document_object, declaresProperty_document (isPlain_path kind) isPlain_of_mem_interfaces]
  constructor
  · rintro ⟨declared, hdeclared, hinterface, property, hproperty, h⟩
    rcases List.mem_cons.1 hdeclared with rfl | hdeclared
    · exact ⟨hinterface, property, hproperty, h⟩
    · -- The three interfaces that all objects have declare no properties.
      have hnone : ∀ declared ∈ [propertiesInterface, introspectableInterface, peerInterface],
          declared.properties.isEmpty := by
        decide
      rw [List.isEmpty_iff.1 (hnone declared hdeclared)] at hproperty
      exact nomatch hproperty
  · rintro ⟨hinterface, h⟩
    exact ⟨kind.interface, List.mem_cons_self, hinterface, h⟩

/-! ## Methods by their names, once more -/

theorem find?_eq_some_of_nodup {α : Type} {f : α → String} {as : List α} (h : (as.map f).Nodup)
    {a : α} (ha : a ∈ as) : as.find? (f · = f a) = some a := by
  induction as with
  | nil => exact nomatch ha
  | cons b as ih =>
    rw [List.map_cons, List.nodup_cons] at h
    rcases List.mem_cons.1 ha with rfl | ha
    · exact List.find?_cons_of_pos (decide_eq_true rfl)
    · have hne : f b ≠ f a := fun heq => h.1 (heq ▸ List.mem_map.2 ⟨a, ha, rfl⟩)
      rw [List.find?_cons, decide_eq_false hne]
      exact ih h.2 ha

theorem nodup_interfaces (kind : ObjectKind) : (kind.interfaces.map (·.name)).Nodup := by
  cases kind <;> decide

theorem nodup_methods : ∀ declared ∈ kind.interfaces, (declared.methods.map (·.name)).Nodup := by
  cases kind <;> decide

/-- The types that are checked are those that are declared. -/
theorem takes_eq_inputTypes (method : Method) : method.takes = method.inputTypes := by
  cases method <;> rfl

theorem member?_of_not_declares (h : ¬Declares kind.object.document interface) :
    kind.member? interface member = none := by
  have hnone : kind.interfaces.find? (·.name = interface) = none := by
    rw [List.find?_eq_none]
    intro declared hdeclared heq
    exact h (declares_object.2 ⟨declared, hdeclared, of_decide_eq_true heq⟩)
  rw [member?_eq_find?, hnone]
  rfl

theorem member?_of_not_declaresMethod (h : Declares kind.object.document interface)
    (hmethod : ∀ inputs outputs,
      ¬DeclaresMethod kind.object.document interface member inputs outputs) :
    kind.member? interface member = some none := by
  obtain ⟨declared, hdeclared, rfl⟩ := declares_object.1 h
  have hnone : declared.methods.find? (·.name = member) = none := by
    rw [List.find?_eq_none]
    intro method hmem heq
    exact hmethod _ _ (declaresMethod_object.2
      ⟨declared, hdeclared, rfl, method, hmem, of_decide_eq_true heq, rfl, rfl⟩)
  rw [member?_eq_find?, find?_eq_some_of_nodup (nodup_interfaces kind) hdeclared, Option.map_some,
    hnone]

/-- A method that the document declares is found, and has the declared signatures. -/
theorem member?_of_declaresMethod
    (h : DeclaresMethod kind.object.document interface member inputs outputs) :
    ∃ declared ∈ kind.interfaces, ∃ method ∈ declared.methods,
      declared.name = interface ∧ method.name = member ∧
        kind.member? interface member = some (some method) ∧
        textOfList method.takes = inputs ∧ textOfList method.outputTypes = outputs := by
  obtain ⟨declared, hdeclared, rfl, method, hmethod, rfl, hin, hout⟩ := declaresMethod_object.1 h
  refine ⟨declared, hdeclared, method, hmethod, rfl, rfl, ?_, ?_, hout⟩
  · rw [member?_eq_find?, find?_eq_some_of_nodup (nodup_interfaces kind) hdeclared,
      Option.map_some, find?_eq_some_of_nodup (nodup_methods declared hdeclared) hmethod]
  · rw [takes_eq_inputTypes, hin]

end VpnTray.Bus
