import VpnTray.Proofs.Bus.Requests
import VpnTray.Proofs.Icon.Colors
import VpnTray.Proofs.Tray.Scene

/-!
# What a read shows

A program on the bus reads the tray while threads call it, and the steps of the read and of the
calls come in any order (`Inquiry`). Nearly every read looks at the tray once at most
(`glance_route`), so that it shows one state that was current meanwhile. Only the read of all
properties of the item looks twice, once for the icon and then for the tool tip. The connection
may come up or go down in between, and then the reply shows no state that there ever was
(`torn_of_connecting`). It shows one if the two looks find the same state of the connection, and
only then (`shown_of_reaches`).
-/

namespace VpnTray.Bus

open Stepped

/-! ## Reads -/

/-- A message at most reads: it can ask for no command. -/
def Message.Reads (message : Message) : Prop :=
  ∀ object method, target message = .ok (object, method) → ¬method.Dispatches

/-- A message asks for all properties of the item. -/
structure Message.AsksAll (message : Message) : Prop where
  target : target message = .ok (itemObject, .getAll)
  arguments : arguments message.body = [.string itemInterface.name]

/-- All properties of the item, with an icon and the tool tip for a state of the connection. -/
def itemValues (icon : Icon) (connected : Bool) : List (String × Value) :=
  (Names.putAll [] itemEntries).map fun (name, property) =>
    (name, property.value { state := { icon, connected } })

/-- A read at one moment: the tray among its callers, what is left to do of the read, and the
    states of the tray that have been current since the read began. -/
structure Inquiry where
  scene : Scene
  left : Stepped Tray (Except Fault Reply)
  passed : List Tray

namespace Inquiry

/-- A read begins. -/
def start (scene : Scene) (message : Message) : Inquiry where
  scene := scene
  left := (route message).run
  passed := [scene.tray]

/-- One step of the others, or of the read itself. -/
inductive Step : Inquiry → Inquiry → Prop
  | others (inquiry : Inquiry) {next : Scene} (h : Scene.Step inquiry.scene next) :
    Step inquiry { inquiry with scene := next, passed := inquiry.passed ++ [next.tray] }
  | own (inquiry : Inquiry) {rest : Stepped Tray (Except Fault Reply)} {tray : Tray}
    (h : Stepped.Step (inquiry.left, inquiry.scene.tray) (rest, tray)) :
    Step inquiry
      { scene := { inquiry.scene with tray }, left := rest, passed := inquiry.passed ++ [tray] }

/-- Some steps lead from one moment of a read to another. -/
inductive Reaches (first : Inquiry) : Inquiry → Prop
  | refl : Reaches first first
  | step {inquiry next : Inquiry} : Reaches first inquiry → Step inquiry next → Reaches first next

end Inquiry

/-- What the reply to a message shows of the states that were current meanwhile. -/
structure Shown (message : Message) (passed : List Tray) (reply : Except Fault Reply) : Prop where
  /-- A read shows one of them, unless it asks for all properties of the item. -/
  one : ¬message.AsksAll → ∃ tray ∈ passed, reply = answer message tray
  /-- All properties of the item show the icon of one of them, and the tool tip of the same one or
      of a later one. They show one state just if these two agree about the connection. -/
  two : message.AsksAll → ∃ earlier later, [earlier, later].Sublist passed ∧
    reply = .ok (.properties (itemValues earlier.state.icon later.state.connected)) ∧
    ((∃ tray ∈ passed, reply = answer message tray) ↔
      earlier.state.connected = later.state.connected)

variable {kind : ObjectKind} {method : Method} {message : Message} {values : List Value}
  {inquiry next : Inquiry} {scene : Scene} {reply : Except Fault Reply} {earlier later : Tray}

/-! ## Reads that look once -/

/-- Fixed properties are read without a look at the tray. -/
theorem glance_readAll {properties : Names (Property Tray)}
    (h : ∀ entry ∈ properties, ∃ value, entry.2 = .fixed value) :
    Glance (Registry.readAll properties) := by
  induction properties with
  | nil => exact .done []
  | cons entry properties ih =>
    obtain ⟨name, property⟩ := entry
    rw [List.forall_mem_cons] at h
    obtain ⟨⟨value, rfl⟩, hrest⟩ := h
    exact (ih hrest).map _

theorem glance_getAll {interface : String} (h : ¬(kind = .item ∧ interface = itemInterface.name)) :
    Glance (kind.object.properties.getAll interface) := by
  rw [properties_object]
  by_cases hinterface : interface = kind.interface.name
  · cases kind with
    | item => exact absurd ⟨rfl, hinterface⟩ h
    | menu =>
      subst hinterface
      have hfixed : ∀ entry ∈ menuEntries, ∃ value, entry.2 = .fixed value := by
        simp [menuEntries]
      rw [Registry.getAll, Registry.interfaces_ofList (entries_ne_nil _), List.lookup_cons_self]
      refine (glance_readAll fun entry hentry => hfixed entry ?_).map _
      exact (Names.perm_putAll (nodup_entries .menu)).mem_iff.1 hentry
  · rw [Registry.getAll_ofList_of_ne (entries_ne_nil kind) hinterface]
    exact .done _

theorem glance_ofRegistry_bind {α : Type} {read : Stepped Tray (Except PropertyError α)}
    (h : Glance read) (f : α → Reply) : Glance (ofRegistry read >>= fun a => pure (f a)).run := by
  simp only [ofRegistry, bind_pure_comp, ExceptT.run_map, ExceptT.run_mk]
  exact (h.map _).map _

theorem glance_look_bind {α : Type} {f : State → α} {g : α → Answering Reply}
    (hg : ∀ a, ∃ result, (g a).run = pure result) :
    Glance ((liftM (Tray.look f) : Answering α) >>= g).run := by
  choose result hresult using hg
  have hrun : ((liftM (Tray.look f) : Answering α) >>= g).run =
      .step id fun tray => .done (result (f tray.state)) :=
    congrArg (Stepped.step id) (funext fun _ => hresult _)
  rw [hrun]
  exact .look (fun _ => rfl) _

/-- A method that hands out no commands looks at the tray once at most. -/
theorem glance_call_of_fits (h : Fits method values) (hmethod : ¬method.Dispatches)
    (hall : ¬(kind = .item ∧ method = .getAll ∧ values = [.string itemInterface.name])) :
    Glance (call kind.object method values).run := by
  cases h with
  | introspect | ping | activate | secondaryActivate | contextMenu | scroll | set => exact .done _
  | get interface name => exact glance_ofRegistry_bind (glance_get kind interface name) _
  | getAll interface =>
    refine glance_ofRegistry_bind (glance_getAll fun ⟨hkind, hinterface⟩ => ?_) _
    exact hall ⟨hkind, rfl, hinterface ▸ rfl⟩
  | getLayout parent depth names =>
    refine glance_look_bind fun layout? => ?_
    cases layout? with
    | none => exact ⟨_, rfl⟩
    | some layout => exact ⟨_, rfl⟩
  | getGroupProperties ids names => exact glance_look_bind fun _ => ⟨_, rfl⟩
  | getProperty id name => exact glance_look_bind fun _ => ⟨_, rfl⟩
  | event | eventGroup | aboutToShow | aboutToShowGroup => exact absurd (by decide) hmethod

/-- Nearly every read looks at the tray once at most. -/
theorem glance_route (hreads : message.Reads) (hall : ¬message.AsksAll) :
    Glance (route message).run := by
  rcases htarget : target message with fault | ⟨object, method⟩
  · rw [route, htarget]
    exact .done _
  · obtain ⟨kind, -, rfl, -⟩ := finds_of_target htarget
    have hitem : ¬(kind = .item ∧ method = .getAll ∧
        arguments message.body = [.string itemInterface.name]) := by
      rintro ⟨rfl, rfl, harguments⟩
      exact hall ⟨htarget, harguments⟩
    have hcall : ∀ _ : Fits method (arguments message.body),
        Glance (call kind.object method (arguments message.body)).run :=
      fun hfits => glance_call_of_fits hfits (hreads _ _ htarget) hitem
    rw [run_route_of_target htarget]
    split
    · next hignores => exact hcall (fits_of_ignoresBody hignores _)
    · split
      · exact .done _
      · next htypes =>
        split
        · exact .done _
        · exact hcall (fits_of_types (not_not.1 htypes))

/-! ## The read that looks twice -/

theorem reads_of_asksAll (h : message.AsksAll) : message.Reads := by
  intro object method htarget
  rw [h.target] at htarget
  obtain ⟨rfl, rfl⟩ := Prod.mk.inj (Except.ok.inj htarget)
  decide

theorem getAll_item : itemObject.properties.getAll itemInterface.name =
    Stepped.get id >>= fun earlier : Tray => Stepped.get id >>= fun later : Tray =>
      pure (.ok (itemValues earlier.state.icon later.state.connected)) := rfl

theorem run_route_of_asksAll (h : message.AsksAll) : (route message).run =
    Stepped.get id >>= fun earlier : Tray => Stepped.get id >>= fun later : Tray =>
      pure (.ok (.properties (itemValues earlier.state.icon later.state.connected))) := by
  rw [run_route_of_target h.target, h.arguments, if_neg (by decide), if_neg (by decide),
    if_neg (by decide), call, getAll_item]
  rfl

theorem answer_of_asksAll (h : message.AsksAll) (tray : Tray) :
    answer message tray =
      .ok (.properties (itemValues tray.state.icon tray.state.connected)) := by
  rw [answer, run_route_of_asksAll h]
  rfl

/-- The icon is seen first, and then the connection, of which the tool tip tells. -/
theorem sees_of_asksAll {seen : List Tray} (h : message.AsksAll)
    (hsees : Sees (route message).run seen reply) : ∃ earlier later, seen = [earlier, later] ∧
      reply = .ok (.properties (itemValues earlier.state.icon later.state.connected)) := by
  rw [run_route_of_asksAll h] at hsees
  obtain ⟨earlier, rest, rfl, hrest⟩ := sees_get_bind_iff.1 hsees
  obtain ⟨later, last, rfl, hlast⟩ := sees_get_bind_iff.1 hrest
  obtain ⟨rfl, rfl⟩ := sees_pure_iff.1 hlast
  exact ⟨earlier, later, rfl, rfl⟩

theorem looks_route (hreads : message.Reads) : (route message).run.Looks := by
  by_cases hall : message.AsksAll
  · rw [run_route_of_asksAll hall]
    exact .step (fun _ => rfl) fun _ => .step (fun _ => rfl) fun _ => .done _
  · exact (glance_route hreads hall).looks

/-- An image is not changed on its way to the bus. -/
theorem iconsValue_singleton_inj {icon icon' : Icon} (h : iconsValue [icon] = iconsValue [icon']) :
    icon = icon' := by
  simp only [iconsValue, List.map_cons, List.map_nil, iconValue, Value.array.injEq,
    List.cons.injEq, Value.struct.injEq, Value.int32.injEq, Value.bytes.injEq] at h
  cases icon
  cases icon'
  simp_all

theorem toolTip_inj {connected connected' : Bool}
    (h : (toolTip connected).value = (toolTip connected').value) : connected = connected' := by
  cases connected <;> cases connected' <;> simp [toolTip, ToolTip.value] at h ⊢

/-- The properties of the item tell for which state of the connection the icon is, and for which
    one the tool tip is. -/
theorem itemValues_inj {connected connected' shown shown' : Bool} :
    itemValues (.render connected) shown = itemValues (.render connected') shown' ↔
      connected = connected' ∧ shown = shown' := by
  constructor
  · intro h
    have hicon : some (iconsValue [.render connected]) = some (iconsValue [.render connected']) :=
      congrArg (List.lookup "IconPixmap") h
    have htip : some (toolTip shown).value = some (toolTip shown').value :=
      congrArg (List.lookup "ToolTip") h
    exact ⟨Icon.render_injective (iconsValue_singleton_inj (Option.some.inj hicon)),
      toolTip_inj (Option.some.inj htip)⟩
  · rintro ⟨rfl, rfl⟩
    rfl

/-- The icon of one state and the tool tip of another are the reply of a state just if the three
    of them agree about the connection. -/
theorem itemValues_eq_answer_iff (later : Tray) {tray : Tray} (h : message.AsksAll)
    (hearlier : earlier.state.Coherent) (htray : tray.state.Coherent) :
    .ok (.properties (itemValues earlier.state.icon later.state.connected)) = answer message tray ↔
      earlier.state.connected = tray.state.connected ∧
        later.state.connected = tray.state.connected := by
  rw [answer_of_asksAll h, Except.ok.injEq, Reply.properties.injEq, hearlier.icon, htray.icon,
    itemValues_inj]

/-! ## Along a read -/

/-- The icon and the connection of a tray among its callers belong together. -/
theorem coherent_of_reaches (h : (Scene.start {}).Reaches scene) : scene.tray.state.Coherent := by
  have hmove : ∀ (scene next : Scene) (pending pending' : List Signal),
      scene.tray.state.Coherent → Scene.Move scene next pending pending' →
      next.tray.state.Coherent := by
    intro scene next _ _ hcoherent hmove
    cases hmove with
    | idle htray | take _ htray => rwa [htray]
    | change hafter => exact hafter.coherent hcoherent
  obtain ⟨-, -, -, hcoherent⟩ := h.keeps (P := fun scene _ => scene.tray.state.Coherent)
    (Scene.pending_start {}) State.coherent_default hmove
  exact hcoherent

namespace Inquiry

/-- What is known at every moment of a read: of the tray, and of what the read has seen of it. -/
structure Inv (message : Message) (inquiry : Inquiry) : Prop where
  reached : (Scene.start {}).Reaches inquiry.scene
  looks : inquiry.left.Looks
  coherent : ∀ tray ∈ inquiry.passed, tray.state.Coherent
  passed : inquiry.passed ≠ []
  sees : ∃ seen, seen.Sublist inquiry.passed ∧ ∀ more reply, Sees inquiry.left more reply →
    Sees (route message).run (seen ++ more) reply

theorem inv_start (hscene : (Scene.start {}).Reaches scene) (hreads : message.Reads) :
    Inv message (start scene message) where
  reached := hscene
  looks := looks_route hreads
  coherent := List.forall_mem_singleton.2 (coherent_of_reaches hscene)
  passed := List.cons_ne_nil _ _
  sees := ⟨[], List.nil_sublist _, fun _ _ h => h⟩

theorem Inv.step (h : Inv message inquiry) (hstep : Step inquiry next) : Inv message next := by
  obtain ⟨hreached, hlooks, hcoherent, hpassed, seen, hseen, hsees⟩ := h
  cases hstep with
  | @others next hnext =>
    have hreached' := hreached.step hnext
    refine ⟨hreached', hlooks, ?_, List.append_ne_nil_of_left_ne_nil hpassed _, seen, ?_, hsees⟩
    · exact List.forall_mem_append.2
        ⟨hcoherent, List.forall_mem_singleton.2 (coherent_of_reaches hreached')⟩
    · exact hseen.trans (List.sublist_append_left _ _)
  | @own rest tray hown =>
    obtain ⟨rfl, hrest⟩ := hlooks.of_step hown
    refine ⟨hreached, hrest, ?_, List.append_ne_nil_of_left_ne_nil hpassed _,
      seen ++ [inquiry.scene.tray], hseen.append (List.Sublist.refl _), fun more reply h => ?_⟩
    · exact List.forall_mem_append.2
        ⟨hcoherent, List.forall_mem_singleton.2 (coherent_of_reaches hreached)⟩
    · -- What is seen in this step comes before what will be seen.
      rw [List.append_assoc]
      exact hsees _ _ (h.of_step hown)

theorem inv_of_reaches (hscene : (Scene.start {}).Reaches scene) (hreads : message.Reads)
    (h : (start scene message).Reaches inquiry) : Inv message inquiry := by
  induction h with
  | refl => exact inv_start hscene hreads
  | step _ hstep ih => exact ih.step hstep

/-- At the end of a read, the reply is what comes of the states that have been seen. -/
theorem Inv.sees_of_done (h : Inv message inquiry) (hdone : inquiry.left = .done reply) :
    ∃ seen, seen.Sublist inquiry.passed ∧ Sees (route message).run seen reply := by
  obtain ⟨seen, hseen, hsees⟩ := h.sees
  refine ⟨seen, hseen, ?_⟩
  have hall := hsees [] reply (hdone ▸ .done reply)
  rwa [List.append_nil] at hall

/-- However the steps of a read and of the calls come, the reply shows one state that was current
    meanwhile, unless it tells all properties of the item and the connection has changed. -/
theorem shown_of_reaches (hscene : (Scene.start {}).Reaches scene) (hreads : message.Reads)
    (h : (start scene message).Reaches inquiry) (hdone : inquiry.left = .done reply) :
    Shown message inquiry.passed reply := by
  have hinv := inv_of_reaches hscene hreads h
  obtain ⟨seen, hseen, hsees⟩ := hinv.sees_of_done hdone
  refine ⟨fun hall => ?one, fun hall => ?two⟩
  case one =>
    exact hsees.of_glance (glance_route hreads hall) hseen.subset hinv.passed
  case two =>
    obtain ⟨earlier, later, rfl, rfl⟩ := sees_of_asksAll hall hsees
    have hearlier : earlier ∈ inquiry.passed := hseen.subset List.mem_cons_self
    have hlater : later ∈ inquiry.passed :=
      hseen.subset (List.mem_cons_of_mem _ List.mem_cons_self)
    have hreply := fun tray hmem => itemValues_eq_answer_iff later hall
      (hinv.coherent earlier hearlier) (hinv.coherent tray hmem)
    refine ⟨earlier, later, hseen, rfl, fun ⟨tray, hmem, heq⟩ => ?_, fun heq => ?_⟩
    · obtain ⟨h, h'⟩ := (hreply tray hmem).1 heq
      exact h.trans h'.symm
    · exact ⟨later, hlater, (hreply later hlater).2 ⟨heq, rfl⟩⟩

/-- A call for all properties of the item. -/
def allOfItem : Message where
  path := some "/StatusNotifierItem"
  interface := some "org.freedesktop.DBus.Properties"
  member := some "GetAll"
  body := [.string "org.kde.StatusNotifierItem"]

theorem asksAll_allOfItem : allOfItem.AsksAll := by
  have htarget : target allOfItem = .ok (ObjectKind.item.object, .getAll) :=
    target_of_member? rfl rfl rfl
  exact ⟨htarget, rfl⟩

/-- The connection comes up after the icon has been read, and before the tool tip is. -/
theorem reaches_connecting : ∃ inquiry, (start (Scene.start {}) allOfItem).Reaches inquiry ∧
    inquiry.left = .done (.ok (.properties (itemValues (.render false) true))) := by
  have hstart : (start (Scene.start {}) allOfItem).Reaches
      ⟨Scene.start {}, .step id fun earlier => .step id fun later =>
        .done (.ok (.properties (itemValues earlier.state.icon later.state.connected))), [{}]⟩ := by
    rw [start, run_route_of_asksAll asksAll_allOfItem]
    exact .refl
  have hicon := hstart.step (.own _ (.step _ _ _))
  have hbegun := hicon.step (.others _ (.begin _ (.updateStatus ⟨⟨0⟩⟩ true)))
  have hlooked := hbegun.step (.others _ (.call _ (rfl : _ = [] ++ _ :: []) (.step _ _ _)))
  have hchanged := hlooked.step (.others _ (.call _ (rfl : _ = [] ++ _ :: []) (.step _ _ _)))
  have htip := hchanged.step (.own _ (.step _ _ _))
  exact ⟨_, htip, rfl⟩

/-- What a read shows amid a change of the connection. -/
theorem shown_of_connecting : ∃ inquiry reply,
    (start (Scene.start {}) allOfItem).Reaches inquiry ∧ inquiry.left = .done reply ∧
      Shown allOfItem inquiry.passed reply := by
  have hreads := reads_of_asksAll asksAll_allOfItem
  obtain ⟨inquiry, hreached, hdone⟩ := reaches_connecting
  exact ⟨inquiry, _, hreached, hdone, shown_of_reaches .refl hreads hreached hdone⟩

/-- Amid a change of the connection, a read may show no state that was current meanwhile. -/
theorem torn_of_connecting : ∃ inquiry reply,
    (start (Scene.start {}) allOfItem).Reaches inquiry ∧ inquiry.left = .done reply ∧
      ¬∃ tray ∈ inquiry.passed, reply = answer allOfItem tray := by
  have hreads := reads_of_asksAll asksAll_allOfItem
  obtain ⟨inquiry, hreached, hdone⟩ := reaches_connecting
  refine ⟨inquiry, _, hreached, hdone, fun ⟨tray, hmem, heq⟩ => ?_⟩
  have hcoherent := (inv_of_reaches .refl hreads hreached).coherent tray hmem
  rw [answer_of_asksAll asksAll_allOfItem, hcoherent.icon] at heq
  obtain ⟨hicon, htip⟩ := itemValues_inj.1 (Reply.properties.inj (Except.ok.inj heq))
  cases hicon.trans htip.symm

end Inquiry

end VpnTray.Bus
