import VpnTray.Proofs.Bus.Properties
import VpnTray.Proofs.Bus.Reply

/-!
# Calls and documents

A program that has read the document of an object knows what becomes of each call to it:

* a call of what is not declared fails, and the error says whether the interface or the
  method is missing;
* a call with other arguments than those declared fails;
* any other call gets a reply of the declared types, unless it is refused (`Refused`);
* a property can be read if and only if it is declared.

All of this is `Conforms`, and is proved for any call in `conforms`.
-/

namespace VpnTray.Bus

/-- A method takes nothing, and does not look at what it is sent. -/
def Ignores (interface member : String) : Prop :=
  (interface = peerInterface.name ∧ member = Method.ping.name) ∨
    (interface = introspectableInterface.name ∧ member = Method.introspect.name)

instance (interface member : String) : Decidable (Ignores interface member) :=
  inferInstanceAs (Decidable (_ ∨ _))

/-- A call fails with a kind of error. -/
def FailsWith (message : Message) (tray : Tray) (error : String) : Prop :=
  ∃ fault, answer message tray = .error fault ∧
    fault.name = "org.freedesktop.DBus.Error." ++ error

/-- The types of the arguments of a message, in a row. -/
def argumentText (message : Message) : String := textOfList (Value.types (arguments message.body))

/-- A call with arguments of the declared types is refused with a kind of error. -/
inductive Refused (document : String) (arguments : List Value) : String → String → String → Prop
  /-- A string holds the character with the number zero. -/
  | zero {interface member : String} (hignores : ¬Ignores interface member)
    (hzero : Value.anyZero arguments = true) :
    Refused document arguments interface member "InvalidArgs"
  /-- There is no such item in the menu. -/
  | noItem {parent : Int32} {depth names : Value}
    (harguments : arguments = [.int32 parent, depth, names]) (h : Menu.menu.find? parent = none) :
    Refused document arguments menuInterface.name Method.getLayout.name "InvalidArgs"
  /-- No property can be written. -/
  | set (hzero : Value.anyZero arguments = false) :
    Refused document arguments propertiesInterface.name Method.set.name "PropertyReadOnly"
  /-- No properties of the interface are declared. -/
  | noInterface {interface name : String} (hzero : Value.anyZero arguments = false)
    (harguments : arguments = [.string interface, .string name])
    (h : ¬DeclaresProperties document interface) :
    Refused document arguments propertiesInterface.name Method.get.name "UnknownInterface"
  /-- Properties of the interface are declared, but not this one. -/
  | noProperty {interface name : String} (hzero : Value.anyZero arguments = false)
    (harguments : arguments = [.string interface, .string name])
    (h : DeclaresProperties document interface)
    (hname : ∀ type, ¬DeclaresProperty document interface name type) :
    Refused document arguments propertiesInterface.name Method.get.name "UnknownProperty"
  /-- No properties of the interface are declared. -/
  | noProperties {interface : String} (hzero : Value.anyZero arguments = false)
    (harguments : arguments = [.string interface]) (h : ¬DeclaresProperties document interface) :
    Refused document arguments propertiesInterface.name Method.getAll.name "UnknownInterface"

/-- What becomes of a call to an object is what its document says. -/
structure Conforms (document : String) (tray : Tray) (message : Message)
    (interface member : String) : Prop where
  /-- An interface that is not declared is unknown. -/
  unknownInterface : ¬Declares document interface → FailsWith message tray "UnknownInterface"
  /-- A method that is not declared in a declared interface is unknown. -/
  unknownMethod : Declares document interface →
    (∀ inputs outputs, ¬DeclaresMethod document interface member inputs outputs) →
    FailsWith message tray "UnknownMethod"
  /-- A method that is declared is known. -/
  known : ∀ inputs outputs, DeclaresMethod document interface member inputs outputs →
    ¬FailsWith message tray "UnknownMethod"
  /-- A method takes no other arguments than those declared. -/
  invalid : ∀ inputs outputs, DeclaresMethod document interface member inputs outputs →
    ¬Ignores interface member → argumentText message ≠ inputs → FailsWith message tray "InvalidArgs"
  /-- With these it gives what is declared, unless it is refused. -/
  replies : ∀ inputs outputs, DeclaresMethod document interface member inputs outputs →
    Ignores interface member ∨ argumentText message = inputs →
    (∀ error, ¬Refused document (arguments message.body) interface member error) →
    ∃ reply, answer message tray = .ok reply ∧ textOfList (Value.types reply.body) = outputs
  /-- What is refused fails. -/
  refused : ∀ inputs outputs error, DeclaresMethod document interface member inputs outputs →
    argumentText message = inputs →
    Refused document (arguments message.body) interface member error →
    FailsWith message tray error
  /-- A property that is declared can be read, and has the declared type. -/
  get : ∀ name type owner, interface = propertiesInterface.name → member = Method.get.name →
    arguments message.body = [.string owner, .string name] →
    Value.anyZero (arguments message.body) = false → DeclaresProperty document owner name type →
    ∃ value, answer message tray = .ok (.value value) ∧ value.type.text = type
  /-- All properties that are declared can be read at once, and nothing else. -/
  getAll : ∀ owner, interface = propertiesInterface.name → member = Method.getAll.name →
    arguments message.body = [.string owner] → Value.anyZero (arguments message.body) = false →
    DeclaresProperties document owner →
    ∃ values, answer message tray = .ok (.properties values) ∧ (values.map Prod.fst).Nodup ∧
      ∀ name type, (∃ value, (name, value) ∈ values ∧ value.type.text = type) ↔
        DeclaresProperty document owner name type

/-! ## Finding the method -/

theorem ignoresBody_iff {kind : ObjectKind} : ∀ declared ∈ kind.interfaces,
    ∀ method ∈ declared.methods,
      method.ignoresBody = true ↔ Ignores declared.name method.name := by
  cases kind <;> decide

/-- Where the methods are declared whose calls can be refused. -/
theorem name_of_mem_methods {kind : ObjectKind} : ∀ declared ∈ kind.interfaces,
    ∀ method ∈ declared.methods,
      (method ∈ [Method.get, .getAll, .set] → declared.name = propertiesInterface.name) ∧
        (method = .getLayout → declared.name = menuInterface.name) := by
  cases kind <;> decide

/-- A call has found its method, which is in an interface of the object under the names in
    the message. -/
structure Finds (kind : ObjectKind) (message : Message) (member : String) (declared : Interface)
    (method : Method) : Prop where
  interface_mem : declared ∈ kind.interfaces
  method_mem : method ∈ declared.methods
  interface_name : declared.name = message.interfaceOf kind
  method_name : method.name = member
  target : target message = .ok (kind.object, method)

variable {kind : ObjectKind} {message : Message} {tray : Tray} {member inputs outputs : String}
  {declared : Interface} {method : Method}

theorem finds_of_declaresMethod (hpath : message.path = some kind.object.path)
    (hmember : message.member = some member)
    (h : DeclaresMethod kind.object.document (message.interfaceOf kind) member inputs outputs) :
    ∃ declared method, Finds kind message member declared method ∧
      textOfList method.takes = inputs ∧ textOfList method.outputTypes = outputs := by
  obtain ⟨declared, hdeclared, method, hmethod, hname, hmemberName, hfound, hin, hout⟩ :=
    member?_of_declaresMethod h
  exact ⟨declared, method, ⟨hdeclared, hmethod, hname, hmemberName,
    target_of_member? hpath hmember hfound⟩, hin, hout⟩

namespace Finds

variable (h : Finds kind message member declared method)

include h

theorem ignoresBody_iff :
    method.ignoresBody = true ↔ Ignores (message.interfaceOf kind) member := by
  rw [← h.interface_name, ← h.method_name]
  exact Bus.ignoresBody_iff declared h.interface_mem method h.method_mem

theorem answer_of_ignores (hignores : Ignores (message.interfaceOf kind) member) :
    answer message tray = callAnswer kind.object method (arguments message.body) tray := by
  rw [answer_of_target h.target, if_pos (h.ignoresBody_iff.2 hignores)]

theorem answer_of_ne (hignores : ¬Ignores (message.interfaceOf kind) member)
    (hne : argumentText message ≠ textOfList method.takes) :
    answer message tray = .error (mismatch method message.body) := by
  have htypes : Value.types (arguments message.body) ≠ method.takes := fun heq =>
    hne (congrArg textOfList heq)
  rw [answer_of_target h.target, if_neg (mt h.ignoresBody_iff.1 hignores), if_pos htypes]

theorem answer_of_zero (hignores : ¬Ignores (message.interfaceOf kind) member)
    (htypes : Value.types (arguments message.body) = method.takes)
    (hzero : Value.anyZero (arguments message.body) = true) :
    answer message tray = .error .zeroInString := by
  rw [answer_of_target h.target, if_neg (mt h.ignoresBody_iff.1 hignores),
    if_neg (not_not_intro htypes), if_pos hzero]

theorem interfaceOf_eq_properties (hmethod : method ∈ [Method.get, .getAll, .set]) :
    message.interfaceOf kind = propertiesInterface.name :=
  h.interface_name.symm.trans
    ((name_of_mem_methods declared h.interface_mem method h.method_mem).1 hmethod)

theorem interfaceOf_eq_menu (hmethod : method = .getLayout) :
    message.interfaceOf kind = menuInterface.name :=
  h.interface_name.symm.trans
    ((name_of_mem_methods declared h.interface_mem method h.method_mem).2 hmethod)

end Finds

/-! ## Replies -/

variable {values : List Value}

theorem delivers_get (htypes : Value.types values = Method.get.takes)
    (hzero : Value.anyZero values = false)
    (hrefused : ∀ error, ¬Refused kind.object.document values propertiesInterface.name
      Method.get.name error) :
    Delivers kind.object .get values tray := by
  cases fits_of_types htypes with
  | get interface name =>
    -- The call is not refused, so the document declares what is asked for.
    have hdeclares : DeclaresProperties kind.object.document interface :=
      Classical.byContradiction fun h => hrefused _ (.noInterface hzero rfl h)
    have hproperty : ∃ type, DeclaresProperty kind.object.document interface name type :=
      Classical.byContradiction fun h =>
        hrefused _ (.noProperty hzero rfl hdeclares fun type htype => h ⟨type, htype⟩)
    obtain ⟨type, hproperty⟩ := hproperty
    obtain ⟨value, hanswer, -⟩ := callAnswer_get_of_declares hproperty tray
    exact ⟨.value value, hanswer, rfl⟩

theorem delivers_getAll (htypes : Value.types values = Method.getAll.takes)
    (hzero : Value.anyZero values = false)
    (hrefused : ∀ error, ¬Refused kind.object.document values propertiesInterface.name
      Method.getAll.name error) :
    Delivers kind.object .getAll values tray := by
  cases fits_of_types htypes with
  | getAll interface =>
    have hdeclares : DeclaresProperties kind.object.document interface :=
      Classical.byContradiction fun h => hrefused _ (.noProperties hzero rfl h)
    obtain ⟨values, hanswer, -⟩ := callAnswer_getAll_of_declares hdeclares tray
    exact ⟨.properties values, hanswer, rfl⟩

theorem delivers_getLayout (htypes : Value.types values = Method.getLayout.takes)
    (hrefused : ∀ error, ¬Refused kind.object.document values menuInterface.name
      Method.getLayout.name error) :
    Delivers kind.object .getLayout values tray := by
  cases fits_of_types htypes with
  | getLayout parent depth names =>
    rcases hfind : Menu.menu.find? parent with _ | tree
    · exact absurd (.noItem rfl hfind) (hrefused _)
    · refine ⟨.layout tray.state.revision
        (tree.layout tray.state (names.filterMap Value.string?) depth), ?_, ?_⟩
      · rw [callAnswer_getLayout, Menu.layout?, hfind]
        rfl
      · rw [Reply.body, Value.types, Value.types, type_layoutValue]
        rfl

theorem Finds.delivers (h : Finds kind message member declared method)
    (hfits : Ignores (message.interfaceOf kind) member ∨
      Value.types (arguments message.body) = method.takes)
    (hrefused : ∀ error, ¬Refused kind.object.document (arguments message.body)
      (message.interfaceOf kind) member error) :
    ∃ reply, answer message tray = .ok reply ∧ Value.types reply.body = method.outputTypes := by
  by_cases hignores : Ignores (message.interfaceOf kind) member
  · have hbody := h.ignoresBody_iff.2 hignores
    rw [h.answer_of_ignores hignores]
    exact delivers_of_ignoresBody hbody kind.object _ tray
  have htypes := hfits.resolve_left hignores
  have hzero : Value.anyZero (arguments message.body) = false :=
    Bool.eq_false_iff.2 fun hzero => hrefused _ (.zero hignores hzero)
  rw [answer_of_takes h.target htypes hzero]
  by_cases hmethod : method ∈ [Method.get, .getAll, .set, .getLayout]
  · -- These say no to some arguments. Their names are in one interface only, for which the
    -- refusals are stated.
    rw [← h.method_name] at hrefused
    simp only [List.mem_cons, List.not_mem_nil, or_false] at hmethod
    rcases hmethod with rfl | rfl | rfl | rfl
    · rw [h.interfaceOf_eq_properties (by decide)] at hrefused
      exact delivers_get htypes hzero hrefused
    · rw [h.interfaceOf_eq_properties (by decide)] at hrefused
      exact delivers_getAll htypes hzero hrefused
    · rw [h.interfaceOf_eq_properties (by decide)] at hrefused
      exact absurd (.set hzero) (hrefused _)
    · rw [h.interfaceOf_eq_menu rfl] at hrefused
      exact delivers_getLayout htypes hrefused
  · exact delivers_of_fits hmethod (fits_of_types htypes) kind.object tray

/-! ## Refusals -/

/-- The methods of all objects. -/
def allMethods : List Method :=
  [itemInterface, menuInterface, propertiesInterface, introspectableInterface,
    peerInterface].flatMap (·.methods)

/-- No two methods have the same name. -/
theorem Method.name_injective {method method' : Method} (h : method.name = method'.name) :
    method = method' := by
  -- A method is found in the list of all methods by its name.
  have hnodup : (allMethods.map Method.name).Nodup := by decide
  have hmem : ∀ method : Method, method ∈ allMethods := by
    intro method
    cases method <;> decide
  have hfind := find?_eq_some_of_nodup hnodup (hmem method)
  rw [h, find?_eq_some_of_nodup hnodup (hmem method')] at hfind
  exact (Option.some.inj hfind).symm

theorem exists_callAnswer_set (htypes : Value.types values = Method.set.takes)
    (object : Object Tray) (tray : Tray) :
    ∃ name, callAnswer object .set values tray = .error (.property (.notWritable name)) := by
  cases fits_of_types htypes with
  | set interface name value =>
    exact ⟨name, rfl⟩

theorem callAnswer_getLayout_of_none {parent : Int32} {depth names : Value}
    (hvalues : values = [.int32 parent, depth, names])
    (htypes : Value.types values = Method.getLayout.takes) (hfind : Menu.menu.find? parent = none)
    (object : Object Tray) (tray : Tray) :
    callAnswer object .getLayout values tray = .error (.noMenuItem parent) := by
  cases fits_of_types htypes with
  | getLayout parent' depth' names' =>
    obtain rfl : parent' = parent := Value.int32.inj (List.cons.inj hvalues).1
    rw [callAnswer_getLayout, Menu.layout?, hfind]
    rfl

/-- What the method refuses is refused to the caller. -/
theorem Finds.failsWith_of_callAnswer (h : Finds kind message member declared method)
    (htypes : Value.types (arguments message.body) = method.takes)
    (hzero : Value.anyZero (arguments message.body) = false) {fault : Fault} {error : String}
    (hcall : callAnswer kind.object method (arguments message.body) tray = .error fault)
    (hname : fault.name = "org.freedesktop.DBus.Error." ++ error) :
    FailsWith message tray error :=
  ⟨fault, (answer_of_takes h.target htypes hzero).trans hcall, hname⟩

theorem Finds.failsWith_of_refused (h : Finds kind message member declared method)
    (htypes : Value.types (arguments message.body) = method.takes) {error : String}
    (hrefused : Refused kind.object.document (arguments message.body)
      (message.interfaceOf kind) member error) :
    FailsWith message tray error := by
  generalize hinterface : message.interfaceOf kind = interface at hrefused
  cases hrefused with
  | zero hignores hzero =>
    subst hinterface
    exact ⟨.zeroInString, h.answer_of_zero hignores htypes hzero, rfl⟩
  | noItem harguments hfind =>
    obtain rfl := Method.name_injective h.method_name
    -- With a zero in one of the names the call does not get as far as the menu, but the error
    -- is of the same kind.
    by_cases hzero : Value.anyZero (arguments message.body) = true
    · have hignores : ¬Ignores (message.interfaceOf kind) Method.getLayout.name := fun hignores =>
        nomatch h.ignoresBody_iff.2 hignores
      exact ⟨.zeroInString, h.answer_of_zero hignores htypes hzero, rfl⟩
    · exact h.failsWith_of_callAnswer htypes (Bool.eq_false_iff.2 hzero)
        (callAnswer_getLayout_of_none harguments htypes hfind _ _) rfl
  | set hzero =>
    obtain rfl := Method.name_injective h.method_name
    obtain ⟨name, hcall⟩ := exists_callAnswer_set htypes kind.object tray
    exact h.failsWith_of_callAnswer htypes hzero hcall rfl
  | @noInterface owner name hzero harguments hnone =>
    obtain rfl := Method.name_injective h.method_name
    have hcall := callAnswer_get_of_not_declaresProperties hnone name tray
    exact h.failsWith_of_callAnswer htypes hzero (harguments ▸ hcall) rfl
  | @noProperty owner name hzero harguments hsome hnone =>
    obtain rfl := Method.name_injective h.method_name
    have hcall := callAnswer_get_of_not_declares hsome hnone tray
    exact h.failsWith_of_callAnswer htypes hzero (harguments ▸ hcall) rfl
  | @noProperties owner hzero harguments hnone =>
    obtain rfl := Method.name_injective h.method_name
    have hcall := callAnswer_getAll_of_not_declares hnone tray
    exact h.failsWith_of_callAnswer htypes hzero (harguments ▸ hcall) rfl

/-! ## All calls -/

theorem FailsWith.unique {error error' : String} (h : FailsWith message tray error)
    (h' : FailsWith message tray error') : error = error' := by
  obtain ⟨fault, hanswer, hname⟩ := h
  obtain ⟨fault', hanswer', hname'⟩ := h'
  obtain rfl : fault = fault' := Except.error.inj (hanswer.symm.trans hanswer')
  exact String.append_right_inj _ |>.1 (hname.symm.trans hname')

theorem Refused.ne_unknownMethod {document interface error : String}
    (h : Refused document values interface member error) : error ≠ "UnknownMethod" := by
  cases h <;> decide

theorem Refused.not_ignores {document interface error : String}
    (h : Refused document values interface member error) : ¬Ignores interface member := by
  cases h with
  | zero hignores => exact hignores
  | noItem | set | noInterface | noProperty | noProperties => decide

theorem not_failsWith_of_ok {reply : Reply} {error : String} (h : answer message tray = .ok reply) :
    ¬FailsWith message tray error := by
  rintro ⟨fault, hfault, -⟩
  rw [h] at hfault
  exact nomatch hfault

namespace Finds

variable (h : Finds kind message member declared method)

include h

theorem failsWith_of_ne (hignores : ¬Ignores (message.interfaceOf kind) member)
    (hne : argumentText message ≠ textOfList method.takes) :
    FailsWith message tray "InvalidArgs" :=
  ⟨mismatch method message.body, h.answer_of_ne hignores hne, rfl⟩

theorem not_unknownMethod : ¬FailsWith message tray "UnknownMethod" := by
  intro hfails
  -- The call gets a reply, or fails with an error of another kind.
  by_cases hfits : Ignores (message.interfaceOf kind) member ∨
      Value.types (arguments message.body) = method.takes
  · by_cases hrefused : ∃ error, Refused kind.object.document (arguments message.body)
        (message.interfaceOf kind) member error
    · obtain ⟨error, hrefused⟩ := hrefused
      have htypes := hfits.resolve_left hrefused.not_ignores
      exact hrefused.ne_unknownMethod ((h.failsWith_of_refused htypes hrefused).unique hfails)
    · obtain ⟨reply, hanswer, -⟩ := h.delivers hfits fun error herror => hrefused ⟨error, herror⟩
      exact not_failsWith_of_ok hanswer hfails
  · obtain ⟨hignores, htypes⟩ := not_or.1 hfits
    have hinvalid : FailsWith message tray "InvalidArgs" :=
      h.failsWith_of_ne hignores (mt textOfList_injective htypes)
    exact absurd (hinvalid.unique hfails) (by decide)

end Finds

theorem member?_get (kind : ObjectKind) :
    kind.member? propertiesInterface.name Method.get.name = some (some .get) := by
  cases kind <;> rfl

theorem member?_getAll (kind : ObjectKind) :
    kind.member? propertiesInterface.name Method.getAll.name = some (some .getAll) := by
  cases kind <;> rfl

/-- Whatever a call to an object is, and whatever state the tray is in, the document of the
    object says what becomes of it. -/
theorem conforms (kind : ObjectKind) (tray : Tray) (message : Message) (member : String) :
    Conforms kind.object.document tray
      { message with path := some kind.object.path, member := some member }
      (message.interfaceOf kind) member := by
  generalize hmessage : { message with path := some kind.object.path, member := some member } = sent
  have hpath : sent.path = some kind.object.path := hmessage ▸ rfl
  have hmember : sent.member = some member := hmessage ▸ rfl
  have hinterface : message.interfaceOf kind = sent.interfaceOf kind := hmessage ▸ rfl
  rw [hinterface]
  refine ⟨fun h => ?_, fun h hnone => ?_, fun _ _ h => ?_, fun _ _ h hignores hne => ?_,
    fun _ _ h hfits hrefused => ?_, fun _ _ _ h hfits hrefused => ?_, ?_, ?_⟩
  · have htarget := target_of_path hpath hmember
    rw [member?_of_not_declares h] at htarget
    exact ⟨_, answer_of_error htarget, rfl⟩
  · have htarget := target_of_path hpath hmember
    rw [member?_of_not_declaresMethod h hnone] at htarget
    exact ⟨_, answer_of_error htarget, rfl⟩
  · obtain ⟨declared, method, hfinds, -⟩ := finds_of_declaresMethod hpath hmember h
    exact hfinds.not_unknownMethod
  · obtain ⟨declared, method, hfinds, rfl, -⟩ := finds_of_declaresMethod hpath hmember h
    exact hfinds.failsWith_of_ne hignores hne
  · obtain ⟨declared, method, hfinds, rfl, rfl⟩ := finds_of_declaresMethod hpath hmember h
    obtain ⟨reply, hanswer, htypes⟩ :=
      hfinds.delivers (hfits.imp_right textOfList_injective) hrefused
    exact ⟨reply, hanswer, congrArg textOfList htypes⟩
  · obtain ⟨declared, method, hfinds, rfl, -⟩ := finds_of_declaresMethod hpath hmember h
    exact hfinds.failsWith_of_refused (textOfList_injective hfits) hrefused
  · intro name type owner hinterface hget harguments hzero hproperty
    have hmethod : kind.member? (sent.interfaceOf kind) member = some (some .get) := by
      rw [hinterface, hget, member?_get]
    have htypes : Value.types (arguments sent.body) = Method.get.takes := by
      rw [harguments]
      rfl
    rw [answer_of_takes (target_of_member? hpath hmember hmethod) htypes hzero, harguments]
    exact callAnswer_get_of_declares hproperty tray
  · intro owner hinterface hgetAll harguments hzero hproperties
    have hmethod : kind.member? (sent.interfaceOf kind) member = some (some .getAll) := by
      rw [hinterface, hgetAll, member?_getAll]
    have htypes : Value.types (arguments sent.body) = Method.getAll.takes := by
      rw [harguments]
      rfl
    rw [answer_of_takes (target_of_member? hpath hmember hmethod) htypes hzero, harguments]
    exact callAnswer_getAll_of_declares hproperties tray

/-- A call of a declared method with arguments of the declared types can fail although it asks
    for nothing unknown: of all properties of a declared interface that has none, and with a
    string that cannot be sent over the bus. -/
theorem failsWith_of_declared :
    let item := ObjectKind.item.object.document
    let menu := ObjectKind.menu.object.document
    let getAll : Message :=
      { path := some "/StatusNotifierItem"
        interface := some "org.freedesktop.DBus.Properties"
        member := some "GetAll"
        body := [.string "org.freedesktop.DBus.Peer"] }
    let getProperty : Message :=
      { path := some "/MenuBar"
        interface := some "com.canonical.dbusmenu"
        member := some "GetProperty"
        body := [.int32 1, .string "\x00"] }
    (Declares item "org.freedesktop.DBus.Peer" ∧
      DeclaresMethod item "org.freedesktop.DBus.Properties" "GetAll" (argumentText getAll)
        "a\x7bsv\x7d" ∧
      FailsWith getAll {} "UnknownInterface") ∧
    DeclaresMethod menu "com.canonical.dbusmenu" "GetProperty" (argumentText getProperty) "v" ∧
      FailsWith getProperty {} "InvalidArgs" := by
  refine ⟨⟨?_, ?_, ?_⟩, ?_, ?_⟩
  · exact declares_object.2 ⟨peerInterface, by simp [ObjectKind.interfaces], rfl⟩
  · refine declaresMethod_object.2 ⟨propertiesInterface, ?_, rfl, .getAll, by decide, rfl, rfl, rfl⟩
    simp [ObjectKind.interfaces]
  · exact ⟨.property (.unknownInterface "org.freedesktop.DBus.Peer"), rfl, rfl⟩
  · refine declaresMethod_object.2 ⟨menuInterface, ?_, rfl, .getProperty, by decide, rfl, rfl, rfl⟩
    exact List.mem_cons_self
  · exact ⟨.zeroInString, rfl, rfl⟩

end VpnTray.Bus
