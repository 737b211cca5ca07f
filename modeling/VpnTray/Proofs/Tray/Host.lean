import VpnTray.Proofs.Bus.Answer
import VpnTray.Proofs.Bus.Registry
import VpnTray.Proofs.Tray.Operation

/-!
# The copies of the desktop

The desktop keeps copies of what it shows: the whole menu, the image of the icon and the
tool tip. It reads each of them by a call, and reads it again when a signal says so.

* `Part`, `Part.call`: what there are copies of, and how they are read;
* `answer_call`: what is read depends on the state of the tray only;
* `State.Next.reply_or_mem_announcement`: a change leaves a part as it was, or one of the
  signals that announce the change is for this part.
-/

namespace VpnTray

namespace Bus

/-- A part of the tray that the desktop keeps a copy of. -/
inductive Part
  | layout
  | icon
  | toolTip
deriving DecidableEq, Repr

/-- The call by which a property of the item is read. -/
def propertyCall (name : String) : Message where
  path := some ObjectKind.item.object.path
  interface := some propertiesInterface.name
  member := some Method.get.name
  body := [.string itemInterface.name, .string name]

/-- The call by which the whole menu is read. -/
def layoutCall : Message where
  path := some ObjectKind.menu.object.path
  interface := some menuInterface.name
  member := some Method.getLayout.name
  body := [.int32 Menu.rootId, .int32 (-1), .strings []]

/-- The call by which a part is read. -/
def Part.call : Part → Message
  | layout => layoutCall
  | icon => propertyCall "IconPixmap"
  | toolTip => propertyCall "ToolTip"

/-- What is shown of a part in a state. -/
def Part.reply (s : State) : Part → Reply
  | layout => .layout s.revision (Menu.menu.layout s [] (-1))
  | icon => .value (iconsValue [s.icon])
  | toolTip => .value (Bus.toolTip s.connected).value

theorem answer_propertyCall {name : String} {property : Property Tray} (tray : Tray)
    (hzero : Value.anyZero (arguments (propertyCall name).body) = false)
    (hproperty : itemEntries.lookup name = some property) :
    answer (propertyCall name) tray = .ok (.value (property.value tray)) := by
  have htarget : target (propertyCall name) = .ok (ObjectKind.item.object, .get) :=
    target_of_member? rfl rfl rfl
  have hfind : ObjectKind.item.object.properties.find itemInterface.name name = .ok property := by
    have h := find_properties .item name
    rwa [ObjectKind.entries, hproperty] at h
  rw [answer_of_takes htarget rfl hzero]
  change callAnswer _ _ [.string itemInterface.name, .string name] tray = _
  rw [callAnswer_get, hfind]

theorem answer_layoutCall (tray : Tray) :
    answer layoutCall tray =
      .ok (.layout tray.state.revision (Menu.menu.layout tray.state [] (-1))) := by
  have htarget : target layoutCall = .ok (ObjectKind.menu.object, .getLayout) :=
    target_of_member? rfl rfl rfl
  have hmenu : Menu.menu.find? Menu.rootId = some Menu.menu := Menu.menu.find?_id
  rw [answer_of_takes htarget rfl rfl]
  change callAnswer _ _ [.int32 Menu.rootId, .int32 (-1), .array .string []] tray = _
  rw [callAnswer_getLayout, Menu.layout?, hmenu]
  rfl

/-- What is read of a part depends on the state only. -/
theorem answer_call (part : Part) (tray : Tray) :
    answer part.call tray = .ok (part.reply tray.state) := by
  cases part with
  | layout => exact answer_layoutCall tray
  | icon =>
    have hzero : Value.anyZero (arguments (propertyCall "IconPixmap").body) = false := by decide
    exact answer_propertyCall tray hzero rfl
  | toolTip =>
    have hzero : Value.anyZero (arguments (propertyCall "ToolTip").body) = false := by decide
    exact answer_propertyCall tray hzero rfl

end Bus

/-- The part that is read again when a signal is received. -/
def Signal.part : Signal → Bus.Part
  | newIcon => .icon
  | newToolTip => .toolTip
  | layoutUpdated _ _ => .layout

/-- A change leaves a part as it was, or is announced by a signal for this part. -/
theorem State.Next.reply_or_mem_announcement {before after : State} (h : before.Next after)
    (part : Bus.Part) :
    part.reply after = part.reply before ∨
      ∃ signal ∈ before.announcement after, signal.part = part := by
  by_cases hconnected : before.connected = after.connected
  · rw [announcement_of_eq hconnected h.differs]
    cases part with
    | layout => exact .inr ⟨_, List.mem_singleton_self _, rfl⟩
    -- The image and the tool tip only show whether there is a connection.
    | icon => exact .inl (by rw [Bus.Part.reply, Bus.Part.reply, h.icon hconnected])
    | toolTip => exact .inl (by rw [Bus.Part.reply, Bus.Part.reply, hconnected])
  · rw [announcement_of_ne hconnected]
    refine .inr ?_
    cases part <;> simp [Signal.part]

end VpnTray
