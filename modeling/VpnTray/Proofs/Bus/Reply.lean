import VpnTray.Proofs.Bus.Answer

/-!
# The types of replies

A method that has been given arguments of the types that it takes gives what it declares to
give (`delivers_of_fits`). Only properties and layouts have more to say: what is asked for
may not be there.
-/

namespace VpnTray.Bus

/-! ## Values of given types -/

namespace Value

theorem types_eq_cons {values : List Value} {first : Signature} {rest : List Signature}
    (h : types values = first :: rest) :
    ∃ value values', values = value :: values' ∧ value.type = first ∧ types values' = rest := by
  rw [types_eq_map] at h
  obtain ⟨value, values', rfl, hvalue, hrest⟩ := List.map_eq_cons_iff.1 h
  exact ⟨value, values', rfl, hvalue, (types_eq_map values').trans hrest⟩

theorem types_eq_nil {values : List Value} (h : types values = []) : values = [] := by
  rw [types_eq_map] at h
  exact List.map_eq_nil_iff.1 h

theorem types_eq_one {values : List Value} {first : Signature} (h : types values = [first]) :
    ∃ value, values = [value] ∧ value.type = first := by
  obtain ⟨value, values, rfl, hvalue, h⟩ := types_eq_cons h
  obtain rfl := types_eq_nil h
  exact ⟨value, rfl, hvalue⟩

theorem types_eq_two {values : List Value} {first second : Signature}
    (h : types values = [first, second]) :
    ∃ value value', values = [value, value'] ∧ value.type = first ∧ value'.type = second := by
  obtain ⟨value, values, rfl, hvalue, h⟩ := types_eq_cons h
  obtain ⟨value', rfl, hvalue'⟩ := types_eq_one h
  exact ⟨value, value', rfl, hvalue, hvalue'⟩

variable {value : Value}

theorem type_eq_string (h : value.type = .string) : ∃ s, value = .string s := by
  cases value <;> first | exact ⟨_, rfl⟩ | exact nomatch h

theorem type_eq_int32 (h : value.type = .int32) : ∃ n, value = .int32 n := by
  cases value <;> first | exact ⟨_, rfl⟩ | exact nomatch h

theorem type_eq_uint32 (h : value.type = .uint32) : ∃ n, value = .uint32 n := by
  cases value <;> first | exact ⟨_, rfl⟩ | exact nomatch h

theorem type_eq_variant (h : value.type = .variant) : ∃ inner, value = .variant inner := by
  cases value <;> first | exact ⟨_, rfl⟩ | exact nomatch h

/-- Only an array of bytes is kept in another way. -/
theorem type_eq_array {element : Signature} (h : value.type = .array element)
    (helement : element ≠ .byte) : ∃ items, value = .array element items := by
  cases value with
  | array element' items =>
    obtain rfl := Signature.array.inj h
    exact ⟨items, rfl⟩
  | bytes data => exact absurd (Signature.array.inj h).symm helement
  | _ => exact nomatch h

end Value

/-! ## Arguments that a method takes -/

/-- A method reads arguments of this form. A method that takes nothing does not look at its
    arguments. -/
inductive Fits : Method → List Value → Prop
  | introspect (arguments : List Value) : Fits .introspect arguments
  | ping (arguments : List Value) : Fits .ping arguments
  | get (interface name : String) : Fits .get [.string interface, .string name]
  | getAll (interface : String) : Fits .getAll [.string interface]
  | set (interface name : String) (value : Value) :
    Fits .set [.string interface, .string name, .variant value]
  | activate (x y : Int32) : Fits .activate [.int32 x, .int32 y]
  | secondaryActivate (x y : Int32) : Fits .secondaryActivate [.int32 x, .int32 y]
  | contextMenu (x y : Int32) : Fits .contextMenu [.int32 x, .int32 y]
  | scroll (delta : Int32) (orientation : String) :
    Fits .scroll [.int32 delta, .string orientation]
  | getLayout (parent depth : Int32) (names : List Value) :
    Fits .getLayout [.int32 parent, .int32 depth, .array .string names]
  | getGroupProperties (ids names : List Value) :
    Fits .getGroupProperties [.array .int32 ids, .array .string names]
  | getProperty (id : Int32) (name : String) : Fits .getProperty [.int32 id, .string name]
  | event (id : Int32) (kind : String) (data : Value) (time : UInt32) :
    Fits .event [.int32 id, .string kind, .variant data, .uint32 time]
  | eventGroup (events : List Value) : Fits .eventGroup [.array eventType events]
  | aboutToShow (id : Int32) : Fits .aboutToShow [.int32 id]
  | aboutToShowGroup (ids : List Value) : Fits .aboutToShowGroup [.array .int32 ids]

/-- The types leave one form for each of the arguments, which is the one that the method reads. -/
theorem fits_of_types {method : Method} {arguments : List Value}
    (h : Value.types arguments = method.takes) : Fits method arguments := by
  cases method with
  | introspect => exact .introspect arguments
  | ping => exact .ping arguments
  | get =>
    obtain ⟨_, _, rfl, hinterface, hname⟩ := Value.types_eq_two h
    obtain ⟨interface, rfl⟩ := Value.type_eq_string hinterface
    obtain ⟨name, rfl⟩ := Value.type_eq_string hname
    exact .get interface name
  | getAll =>
    obtain ⟨_, rfl, hinterface⟩ := Value.types_eq_one h
    obtain ⟨interface, rfl⟩ := Value.type_eq_string hinterface
    exact .getAll interface
  | set =>
    obtain ⟨_, _, rfl, hinterface, h⟩ := Value.types_eq_cons h
    obtain ⟨_, _, rfl, hname, hvalue⟩ := Value.types_eq_two h
    obtain ⟨interface, rfl⟩ := Value.type_eq_string hinterface
    obtain ⟨name, rfl⟩ := Value.type_eq_string hname
    obtain ⟨value, rfl⟩ := Value.type_eq_variant hvalue
    exact .set interface name value
  | activate | secondaryActivate | contextMenu =>
    obtain ⟨_, _, rfl, hx, hy⟩ := Value.types_eq_two h
    obtain ⟨x, rfl⟩ := Value.type_eq_int32 hx
    obtain ⟨y, rfl⟩ := Value.type_eq_int32 hy
    constructor
  | scroll =>
    obtain ⟨_, _, rfl, hdelta, horientation⟩ := Value.types_eq_two h
    obtain ⟨delta, rfl⟩ := Value.type_eq_int32 hdelta
    obtain ⟨orientation, rfl⟩ := Value.type_eq_string horientation
    exact .scroll delta orientation
  | getLayout =>
    obtain ⟨_, _, rfl, hparent, h⟩ := Value.types_eq_cons h
    obtain ⟨_, _, rfl, hdepth, hnames⟩ := Value.types_eq_two h
    obtain ⟨parent, rfl⟩ := Value.type_eq_int32 hparent
    obtain ⟨depth, rfl⟩ := Value.type_eq_int32 hdepth
    obtain ⟨names, rfl⟩ := Value.type_eq_array hnames (by decide)
    exact .getLayout parent depth names
  | getGroupProperties =>
    obtain ⟨_, _, rfl, hids, hnames⟩ := Value.types_eq_two h
    obtain ⟨ids, rfl⟩ := Value.type_eq_array hids (by decide)
    obtain ⟨names, rfl⟩ := Value.type_eq_array hnames (by decide)
    exact .getGroupProperties ids names
  | getProperty =>
    obtain ⟨_, _, rfl, hid, hname⟩ := Value.types_eq_two h
    obtain ⟨id, rfl⟩ := Value.type_eq_int32 hid
    obtain ⟨name, rfl⟩ := Value.type_eq_string hname
    exact .getProperty id name
  | event =>
    obtain ⟨_, _, rfl, hid, h⟩ := Value.types_eq_cons h
    obtain ⟨_, _, rfl, hkind, h⟩ := Value.types_eq_cons h
    obtain ⟨_, _, rfl, hdata, htime⟩ := Value.types_eq_two h
    obtain ⟨id, rfl⟩ := Value.type_eq_int32 hid
    obtain ⟨kind, rfl⟩ := Value.type_eq_string hkind
    obtain ⟨data, rfl⟩ := Value.type_eq_variant hdata
    obtain ⟨time, rfl⟩ := Value.type_eq_uint32 htime
    exact .event id kind data time
  | eventGroup =>
    obtain ⟨_, rfl, hevents⟩ := Value.types_eq_one h
    obtain ⟨events, rfl⟩ := Value.type_eq_array hevents (by decide)
    exact .eventGroup events
  | aboutToShow =>
    obtain ⟨_, rfl, hid⟩ := Value.types_eq_one h
    obtain ⟨id, rfl⟩ := Value.type_eq_int32 hid
    exact .aboutToShow id
  | aboutToShowGroup =>
    obtain ⟨_, rfl, hids⟩ := Value.types_eq_one h
    obtain ⟨ids, rfl⟩ := Value.type_eq_array hids (by decide)
    exact .aboutToShowGroup ids

theorem fits_of_ignoresBody {method : Method} (h : method.ignoresBody = true)
    (arguments : List Value) : Fits method arguments := by
  cases method with
  | introspect => exact .introspect arguments
  | ping => exact .ping arguments
  | _ => exact absurd h Bool.false_ne_true

/-! ## Replies -/

theorem run_liftM_bind {α : Type} (work : Stepped Tray α) (f : α → Answering Reply) (tray : Tray) :
    ((liftM work : Answering α) >>= f).run.run tray =
      (f (work.run tray).1).run.run (work.run tray).2 := by
  have hrun : ((liftM work : Answering α) >>= f).run =
      (Except.ok <$> work) >>= ExceptT.bindCont f := rfl
  rw [hrun, Stepped.run_bind, Stepped.run_map]
  rfl

theorem discard_bind {α : Type} (work : Answering α) (f : PUnit → Answering Reply) :
    (discard work >>= f) = work >>= fun _ => f ⟨⟩ := by
  change (Functor.mapConst PUnit.unit work >>= f) = _
  rw [map_const, Function.comp_apply, bind_map_left]

/-- A method gives a reply of the types that it declares to give. -/
def Delivers (object : Object Tray) (method : Method) (arguments : List Value) (tray : Tray) :
    Prop :=
  ∃ reply, callAnswer object method arguments tray = .ok reply ∧
    Value.types reply.body = method.outputTypes

theorem delivers_of_ignoresBody {method : Method} (h : method.ignoresBody = true)
    (object : Object Tray) (arguments : List Value) (tray : Tray) :
    Delivers object method arguments tray := by
  cases method with
  | introspect => exact ⟨.document object.document, rfl, rfl⟩
  | ping => exact ⟨.empty, rfl, rfl⟩
  | _ => exact absurd h Bool.false_ne_true

theorem delivers_of_fits {method : Method} {arguments : List Value}
    (hmethod : method ∉ [Method.get, .getAll, .set, .getLayout]) (h : Fits method arguments)
    (object : Object Tray) (tray : Tray) : Delivers object method arguments tray := by
  cases h with
  | get | getAll | set | getLayout => exact absurd (by decide) hmethod
  | introspect | ping => exact delivers_of_ignoresBody rfl object arguments tray
  | activate | secondaryActivate | contextMenu | scroll => exact ⟨.empty, rfl, rfl⟩
  | getGroupProperties ids names =>
    rw [Delivers, callAnswer, call, run_liftM_bind]
    exact ⟨.group _, rfl, rfl⟩
  | getProperty id name =>
    rw [Delivers, callAnswer, call, run_liftM_bind]
    exact ⟨.value _, rfl, rfl⟩
  | event id kind data time =>
    rw [Delivers, callAnswer, call, discard_bind, run_liftM_bind]
    exact ⟨.empty, rfl, rfl⟩
  | eventGroup events =>
    rw [Delivers, callAnswer, call, run_liftM_bind]
    exact ⟨.ids _, rfl, rfl⟩
  | aboutToShow id =>
    rw [Delivers, callAnswer, call, run_liftM_bind]
    exact ⟨.flag _, rfl, rfl⟩
  | aboutToShowGroup ids =>
    rw [Delivers, callAnswer, call, run_liftM_bind]
    exact ⟨.idLists _ _, rfl, rfl⟩

end VpnTray.Bus
