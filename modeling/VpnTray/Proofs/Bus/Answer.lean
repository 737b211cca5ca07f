import VpnTray.Bus.Router
import VpnTray.Proofs.Bus.Registry
import VpnTray.Proofs.Stepped.Sees

/-!
# The answer to a call

The way to an answer has two parts: the object and the method are found by the names in
the message (`target_of_path`), and the method is given its arguments once these have
been checked (`answer_of_target`). Properties are then read from the registry of the
object (`callAnswer_get`, `callAnswer_getAll`).
-/

namespace VpnTray.Bus

/-- The object of the tray of a kind. -/
def ObjectKind.object : ObjectKind → Object Tray
  | item => itemObject
  | menu => menuObject

@[simp] theorem kind_object (kind : ObjectKind) : kind.object.kind = kind := by
  cases kind <;> rfl

theorem get?_path_object (kind : ObjectKind) :
    trayObjects.get? kind.object.path = some kind.object := by
  cases kind with
  | item => exact Names.lookup_put_self _ _ _
  | menu =>
    -- The item has been put in after the menu, and does not hide it.
    have hne : menuObject.path ≠ itemObject.path := by decide
    exact (Names.lookup_put_of_ne hne _ _).trans (Names.lookup_put_self _ _ _)

/-- The answer to a message, if nothing comes between its steps. -/
def answer (message : Message) (tray : Tray) : Except Fault Reply :=
  ((route message).run.run tray).1

/-- What an object answers when a method of it is called with arguments. -/
def callAnswer (object : Object Tray) (method : Method) (arguments : List Value) (tray : Tray) :
    Except Fault Reply :=
  ((call object method arguments).run.run tray).1

variable {message : Message} {tray : Tray} {object : Object Tray} {method : Method} {fault : Fault}
  {kind : ObjectKind} {member : String}

/-- The name of the interface that a message to an object means. -/
def Message.interfaceOf (message : Message) (kind : ObjectKind) : String :=
  message.interface.getD kind.interface.name

theorem target_of_path (hpath : message.path = some kind.object.path)
    (hmember : message.member = some member) :
    target message = match kind.member? (message.interfaceOf kind) member with
      | none => .error (.unknownInterface kind.object.path (message.interfaceOf kind))
      | some none => .error (.unknownMethod (message.interfaceOf kind) member)
      | some (some method) => .ok (kind.object, method) := by
  rw [target, hpath, hmember]
  simp only [get?_path_object, kind_object]
  rw [Message.interfaceOf]
  rcases kind.member? (message.interface.getD kind.interface.name) member with
    _ | _ | method <;> rfl

theorem target_of_member? (hpath : message.path = some kind.object.path)
    (hmember : message.member = some member)
    (hmethod : kind.member? (message.interfaceOf kind) member = some (some method)) :
    target message = .ok (kind.object, method) := by
  rw [target_of_path hpath hmember, hmethod]

theorem answer_of_error (h : target message = .error fault) :
    answer message tray = .error fault := by
  rw [answer, route, h]
  rfl

/-- The checks that are made before a method is called. -/
theorem run_route_of_target (h : target message = .ok (object, method)) :
    (route message).run =
      if method.ignoresBody then (call object method (arguments message.body)).run
      else if Value.types (arguments message.body) ≠ method.takes then
        pure (.error (mismatch method message.body))
      else if Value.anyZero (arguments message.body) then pure (.error .zeroInString)
      else (call object method (arguments message.body)).run := by
  rw [route, h]
  change ExceptT.run (if _ then _ else _) = _
  simp only [apply_ite ExceptT.run]
  rfl

theorem answer_of_target (h : target message = .ok (object, method)) :
    answer message tray =
      if method.ignoresBody then callAnswer object method (arguments message.body) tray
      else if Value.types (arguments message.body) ≠ method.takes then
        .error (mismatch method message.body)
      else if Value.anyZero (arguments message.body) then .error .zeroInString
      else callAnswer object method (arguments message.body) tray := by
  rw [answer, run_route_of_target h]
  simp only [apply_ite fun work => (Stepped.run work tray).1]
  rfl

/-- A method is called with arguments of the types that it takes, unless a string in them
    cannot be read. -/
theorem answer_of_takes (h : target message = .ok (object, method))
    (htypes : Value.types (arguments message.body) = method.takes)
    (hzero : Value.anyZero (arguments message.body) = false) :
    answer message tray = callAnswer object method (arguments message.body) tray := by
  rw [answer_of_target h, hzero, if_neg (not_not_intro htypes), if_neg Bool.false_ne_true, ite_self]

/-! ## Properties -/

/-- What an object has to tell, by its names. -/
def ObjectKind.entries : ObjectKind → List (String × Property Tray)
  | item => itemEntries
  | menu => menuEntries

/-- The value of a property in a state of the tray. -/
def Property.value (property : Property Tray) (tray : Tray) : Value := (property.read.run tray).1

theorem properties_object (kind : ObjectKind) :
    kind.object.properties = .ofList kind.interface.name kind.entries := by
  cases kind <;> rfl

theorem entries_ne_nil (kind : ObjectKind) : kind.entries ≠ [] := by
  cases kind <;> exact List.cons_ne_nil _ _

theorem nodup_entries (kind : ObjectKind) : (kind.entries.map Prod.fst).Nodup := by
  cases kind <;> decide

/-- A property is fixed, or takes one look at the tray. -/
theorem glance_read_of_mem {entry : String × Property Tray} (h : entry ∈ kind.entries) :
    Stepped.Glance entry.2.read := by
  have hfixed : ∀ value, Stepped.Glance (Property.fixed value : Property Tray).read :=
    fun value => .done value
  have hfollowing : ∀ f, Stepped.Glance (following f).read :=
    fun f => .look (fun _ => rfl) fun tray : Tray => f tray.state
  have hall : ∀ entry ∈ kind.entries, Stepped.Glance entry.2.read := by
    cases kind <;>
      simp [ObjectKind.entries, itemEntries, menuEntries, hfixed, hfollowing]
  exact hall entry h

/-- Reading a property changes nothing. -/
theorem run_read_of_mem {entry : String × Property Tray} (h : entry ∈ kind.entries) (tray : Tray) :
    (entry.2.read.run tray).2 = tray :=
  (glance_read_of_mem h).looks.run_snd tray

theorem find_properties (kind : ObjectKind) (name : String) :
    kind.object.properties.find kind.interface.name name =
      (kind.entries.lookup name).elim (.error (.unknownProperty name)) .ok := by
  rw [properties_object]
  exact Registry.find_ofList_self (entries_ne_nil kind) (nodup_entries kind) name

theorem find_properties_of_ne {interface : String} (h : interface ≠ kind.interface.name)
    (name : String) :
    kind.object.properties.find interface name = .error (.unknownInterface interface) := by
  rw [properties_object]
  exact Registry.find_ofList_of_ne (entries_ne_nil kind) h name

theorem glance_read_of_find {interface name : String} {property : Property Tray}
    (h : kind.object.properties.find interface name = .ok property) :
    Stepped.Glance property.read := by
  by_cases hinterface : interface = kind.interface.name
  · subst hinterface
    rw [find_properties] at h
    cases hlookup : kind.entries.lookup name with
    | none =>
      rw [hlookup] at h
      cases h
    | some found =>
      rw [hlookup] at h
      obtain rfl : found = property := Except.ok.inj h
      exact glance_read_of_mem ((Names.lookup_eq_some_iff_mem (nodup_entries kind)).1 hlookup)
  · rw [find_properties_of_ne hinterface] at h
    cases h

theorem glance_get (kind : ObjectKind) (interface name : String) :
    Stepped.Glance (kind.object.properties.get interface name) := by
  rw [Registry.get]
  cases hfind : kind.object.properties.find interface name with
  | error cause => exact .done _
  | ok property => exact (glance_read_of_find hfind).map _

theorem callAnswer_get (object : Object Tray) (interface name : String) (tray : Tray) :
    callAnswer object .get [.string interface, .string name] tray =
      match object.properties.find interface name with
      | .error cause => .error (.property cause)
      | .ok property => .ok (.value (property.value tray)) := by
  rw [callAnswer, call, ofRegistry, Registry.get]
  cases object.properties.find interface name with
  | error cause => rfl
  | ok property =>
    simp only [bind_pure_comp, ExceptT.run_map, ExceptT.run_mk, Stepped.run_map]
    rfl

theorem callAnswer_getAll (object : Object Tray) (interface : String) (tray : Tray) :
    callAnswer object .getAll [.string interface] tray =
      match ((object.properties.getAll interface).run tray).1 with
      | .error cause => .error (.property cause)
      | .ok values => .ok (.properties values) := by
  rw [callAnswer, call, ofRegistry]
  simp only [bind_pure_comp, ExceptT.run_map, ExceptT.run_mk, Stepped.run_map]
  cases ((object.properties.getAll interface).run tray).1 <;> rfl

/-! ## The menu -/

theorem run_look_bind {α : Type} (f : State → α) (g : α → Answering Reply) (tray : Tray) :
    ((liftM (Tray.look f) : Answering α) >>= g).run.run tray = (g (f tray.state)).run.run tray :=
  rfl

theorem callAnswer_getLayout (object : Object Tray) (parent depth : Int32) (element : Signature)
    (names : List Value) (tray : Tray) :
    callAnswer object .getLayout [.int32 parent, .int32 depth, .array element names] tray =
      match Menu.layout? tray.state parent depth (names.filterMap Value.string?) with
      | none => .error (.noMenuItem parent)
      | some (revision, layout) => .ok (.layout revision layout) := by
  rw [callAnswer, call, run_look_bind]
  rcases Menu.layout? tray.state parent depth (names.filterMap Value.string?) with
    _ | ⟨revision, layout⟩ <;> rfl

end VpnTray.Bus
