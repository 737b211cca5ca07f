import VpnTray.Proofs.Bus.Registry
import VpnTray.Proofs.Stepped
import VpnTray.Proofs.Stepped.Sees

/-!
# Requests to a registry

A registry is asked for things one after the other: to keep a property, to read one or all of an
interface, to write one. What is read does not show that the names are kept on two levels: it is
what was registered last by the names of the interface and of the property, whatever was
registered by one of the two names alone. A computed property is evaluated anew each time that it
is read, and nothing can be written.

* `performAll`: a run of requests;
* `last?`: what was registered last by two names;
* `Agrees`: the registry keeps just this, as each request leaves it (`Agrees.perform`);
* `Reads`: how all properties of an interface are read, in terms of what was registered last;
* `LastWrites`: what is answered then, after any run (`lastWrites_performAll`).
-/

namespace VpnTray.Bus

open Stepped

variable {σ : Type}

theorem Names.put_ne_nil {α : Type} (name : String) (a : α) (names : Names α) :
    names.put name a ≠ [] := by
  cases names with
  | nil => exact List.cons_ne_nil _ _
  | cons entry rest =>
    rw [Names.put]
    split
    · exact List.cons_ne_nil _ _
    · split <;> exact List.cons_ne_nil _ _

namespace Registry

/-- What a registry can be asked for. -/
inductive Request (σ : Type)
  | register (interface name : String) (property : Property σ)
  | get (interface name : String)
  | getAll (interface : String)
  | set (interface name : String) (value : Value)

/-- What a registry answers. -/
inductive Answer
  | registered
  | value (result : Except PropertyError Value)
  | values (result : Except PropertyError (List (String × Value)))
  | written (result : Except PropertyError Unit)

/-- Answers a request, and gives the registry that is there from then on. -/
def perform (registry : Registry σ) : Request σ → Stepped σ (Answer × Registry σ)
  | .register interface name property =>
    return (.registered, registry.register interface name property)
  | .get interface name => return (.value (← registry.get interface name), registry)
  | .getAll interface => return (.values (← registry.getAll interface), registry)
  | .set interface name value =>
    match registry.set interface name value with
    | .ok changed => return (.written (.ok ()), changed)
    | .error cause => return (.written (.error cause), registry)

/-- Answers some requests, one after the other. -/
def performAll (registry : Registry σ) : List (Request σ) → Stepped σ (List Answer × Registry σ)
  | [] => return ([], registry)
  | request :: requests => do
    let (answer, registry) ← registry.perform request
    let (answers, registry) ← registry.performAll requests
    return (answer :: answers, registry)

/-! ## What was registered -/

/-- The property, if the request registers one by these names. -/
def Request.registers? (interface name : String) : Request σ → Option (Property σ)
  | .register interface' name' property =>
    if interface' = interface ∧ name' = name then some property else none
  | _ => none

/-- The property that was registered last by the names of its interface and its own. -/
def last? (requests : List (Request σ)) (interface name : String) : Option (Property σ) :=
  requests.reverse.findSome? (·.registers? interface name)

/-- Some property of the interface was registered. -/
def Known (requests : List (Request σ)) (interface : String) : Prop :=
  ∃ name, (last? requests interface name).isSome

theorem last?_concat (requests : List (Request σ)) (request : Request σ)
    (interface name : String) :
    last? (requests ++ [request]) interface name =
      (request.registers? interface name).or (last? requests interface name) := by
  rw [last?, List.reverse_append, List.reverse_singleton, List.singleton_append,
    List.findSome?_cons]
  cases request.registers? interface name <;> rfl

/-! ## One request -/

/-- The registry keeps what was registered last. -/
structure Agrees (requests : List (Request σ)) (registry : Registry σ) : Prop where
  found : ∀ interface name,
    ((registry.interfaces.lookup interface).getD []).lookup name = last? requests interface name
  nonempty : ∀ interface properties,
    registry.interfaces.lookup interface = some properties → properties ≠ []
  ascending : ∀ interface properties, registry.interfaces.lookup interface = some properties →
    properties.Pairwise fun entry other => entry.1 < other.1

theorem agrees_nil : Agrees [] ({} : Registry σ) where
  found _ _ := rfl
  nonempty _ _ := nofun
  ascending _ _ := nofun

variable {requests : List (Request σ)} {registry : Registry σ}

/-- What registers nothing is not kept. -/
theorem Agrees.keep (h : Agrees requests registry) {request : Request σ}
    (hrequest : ∀ interface name, request.registers? interface name = none) :
    Agrees (requests ++ [request]) registry where
  found interface name := by rw [last?_concat, hrequest, Option.none_or, h.found]
  nonempty := h.nonempty
  ascending := h.ascending

/-- What is registered takes the place of what had the same names. -/
theorem Agrees.register (h : Agrees requests registry) (interface name : String)
    (property : Property σ) :
    Agrees (requests ++ [.register interface name property])
      (registry.register interface name property) where
  found other name' := by
    rw [last?_concat, Request.registers?, Registry.register]
    by_cases hinterface : interface = other
    · subst hinterface
      rw [Names.lookup_put_self, Option.getD_some]
      by_cases hname : name = name'
      · subst hname
        rw [Names.lookup_put_self, if_pos ⟨rfl, rfl⟩, Option.some_or]
      · rw [Names.lookup_put_of_ne (Ne.symm hname), h.found, if_neg (fun h => hname h.2),
          Option.none_or]
    · rw [Names.lookup_put_of_ne (Ne.symm hinterface), h.found,
        if_neg (fun h => hinterface h.1), Option.none_or]
  nonempty other properties hlookup := by
    rw [Registry.register] at hlookup
    by_cases hinterface : other = interface
    · subst hinterface
      rw [Names.lookup_put_self] at hlookup
      exact Option.some.inj hlookup ▸ Names.put_ne_nil _ _ _
    · rw [Names.lookup_put_of_ne hinterface] at hlookup
      exact h.nonempty other properties hlookup
  ascending other properties hlookup := by
    rw [Registry.register] at hlookup
    by_cases hinterface : other = interface
    · subst hinterface
      rw [Names.lookup_put_self] at hlookup
      refine Option.some.inj hlookup ▸ Names.ascending_put ?_ _ _
      cases hkept : registry.interfaces.lookup other with
      | none => exact .nil
      | some kept => exact h.ascending other kept hkept
    · rw [Names.lookup_put_of_ne hinterface] at hlookup
      exact h.ascending other properties hlookup

/-- One more request keeps this, whatever others do meanwhile. -/
theorem Agrees.perform (h : Agrees requests registry) (request : Request σ)
    (others : Nat → σ → σ) (moment : Nat × σ) :
    Agrees (requests ++ [request]) ((registry.perform request).runAmid others moment).1.2 := by
  cases request with
  | register interface name property => exact h.register interface name property
  | get interface name =>
    rw [Registry.perform, Stepped.runAmid_bind]
    exact h.keep fun _ _ => rfl
  | getAll interface =>
    rw [Registry.perform, Stepped.runAmid_bind]
    exact h.keep fun _ _ => rfl
  | set interface name value => exact h.keep fun _ _ => rfl

theorem Agrees.performAll (h : Agrees requests registry) (later : List (Request σ))
    (others : Nat → σ → σ) (moment : Nat × σ) :
    Agrees (requests ++ later) ((registry.performAll later).runAmid others moment).1.2 := by
  induction later generalizing requests registry moment with
  | nil => rwa [List.append_nil]
  | cons request later ih =>
    rw [Registry.performAll, Stepped.runAmid_bind, Stepped.runAmid_bind, List.append_cons]
    exact ih (h.perform request others moment) _

/-! ## Reading -/

theorem Agrees.known_iff (h : Agrees requests registry) {interface : String} :
    Known requests interface ↔
      ∃ properties, registry.interfaces.lookup interface = some properties := by
  constructor
  · rintro ⟨name, hname⟩
    rw [← h.found] at hname
    cases hkept : registry.interfaces.lookup interface with
    | none => rw [hkept] at hname; cases hname
    | some properties => exact ⟨properties, rfl⟩
  · rintro ⟨properties, hkept⟩
    obtain ⟨⟨name, property⟩, rest, rfl⟩ :=
      List.exists_cons_of_ne_nil (h.nonempty interface properties hkept)
    refine ⟨name, ?_⟩
    rw [← h.found, hkept, Option.getD_some, List.lookup_cons_self]
    rfl

theorem Agrees.get_of_last? (h : Agrees requests registry) {interface name : String}
    {property : Property σ} (hlast : last? requests interface name = some property) :
    registry.get interface name = .ok <$> property.read := by
  have hfound := h.found interface name
  rw [hlast] at hfound
  cases hkept : registry.interfaces.lookup interface with
  | none => rw [hkept] at hfound; cases hfound
  | some properties =>
    rw [hkept, Option.getD_some] at hfound
    simp only [Registry.get, find, hkept, hfound]
    exact (map_eq_pure_bind _ _).symm

theorem Agrees.get_of_known (h : Agrees requests registry) {interface name : String}
    (hknown : Known requests interface) (hlast : last? requests interface name = none) :
    registry.get interface name = pure (.error (.unknownProperty name)) := by
  obtain ⟨properties, hkept⟩ := h.known_iff.1 hknown
  have hfound := h.found interface name
  rw [hlast, hkept, Option.getD_some] at hfound
  simp only [Registry.get, find, hkept, hfound]

theorem Agrees.lookup_of_not_known (h : Agrees requests registry) {interface : String}
    (hknown : ¬Known requests interface) : registry.interfaces.lookup interface = none := by
  rw [h.known_iff, not_exists] at hknown
  exact Option.eq_none_iff_forall_ne_some.2 hknown

theorem Agrees.get_of_not_known (h : Agrees requests registry) {interface : String}
    (hknown : ¬Known requests interface) (name : String) :
    registry.get interface name = pure (.error (.unknownInterface interface)) := by
  simp only [Registry.get, find, h.lookup_of_not_known hknown]

theorem Agrees.getAll_of_not_known (h : Agrees requests registry) {interface : String}
    (hknown : ¬Known requests interface) :
    registry.getAll interface = pure (.error (.unknownInterface interface)) := by
  simp only [Registry.getAll, h.lookup_of_not_known hknown]

theorem readAll_cons (name : String) (property : Property σ) (properties : Names (Property σ)) :
    readAll ((name, property) :: properties) =
      property.read >>= fun value => ((name, value) :: ·) <$> readAll properties := by
  simp only [map_eq_pure_bind]
  rfl

/-- Properties are read by reading them one after the other, each by its name. -/
theorem readAll_eq {interface : String} {properties : Names (Property σ)}
    (h : ∀ entry ∈ properties, registry.get interface entry.1 = .ok <$> entry.2.read) :
    ExceptT.mk (Except.ok <$> readAll properties) =
      (properties.map Prod.fst).mapM fun name => do
        return (name, ← ExceptT.mk (registry.get interface name)) := by
  induction properties with
  | nil => rfl
  | cons entry properties ih =>
    obtain ⟨name, property⟩ := entry
    have hfirst : ExceptT.mk (registry.get interface name) = ExceptT.lift property.read :=
      h _ List.mem_cons_self
    have hrest : ExceptT.lift (readAll properties) = _ :=
      ih fun entry hentry => h entry (List.mem_cons_of_mem _ hentry)
    rw [List.map_cons, List.mapM_cons, hfirst, ← hrest, readAll_cons]
    apply ExceptT.ext
    simp only [LawfulMonad.bind_assoc, pure_bind, ExceptT.run_bind_lift, ExceptT.run_pure,
      ExceptT.run_mk, map_eq_pure_bind]

/-- The properties with some names are read, one after the other, as they were registered last.
    What is fixed is just there. What is computed is evaluated once, in a state that is found
    then. -/
inductive Reads (requests : List (Request σ)) (interface : String) :
    List String → List σ → List (String × Value) → Prop
  | nil : Reads requests interface [] [] []
  | fixed {name : String} {value : Value} {names : List String} {seen : List σ}
    {values : List (String × Value)}
    (hlast : last? requests interface name = some (.fixed value))
    (hrest : Reads requests interface names seen values) :
    Reads requests interface (name :: names) seen ((name, value) :: values)
  | computed {name : String} {getter : σ → Value × σ} {names : List String} {seen : List σ}
    {values : List (String × Value)} (s : σ)
    (hlast : last? requests interface name = some (.computed getter))
    (hrest : Reads requests interface names seen values) :
    Reads requests interface (name :: names) (s :: seen) ((name, (getter s).1) :: values)

theorem sees_readAll_iff {interface : String} {properties : Names (Property σ)}
    (h : ∀ entry ∈ properties, last? requests interface entry.1 = some entry.2) {seen : List σ}
    {values : List (String × Value)} :
    Sees (readAll properties) seen values ↔
      Reads requests interface (properties.map Prod.fst) seen values := by
  induction properties generalizing seen values with
  | nil =>
    constructor
    · intro hsees
      obtain ⟨rfl, rfl⟩ := sees_pure_iff.1 hsees
      exact .nil
    · rintro ⟨⟩
      exact .done _
  | cons entry properties ih =>
    obtain ⟨name, property⟩ := entry
    have hlast : last? requests interface name = some property := h _ List.mem_cons_self
    have hrest {seen : List σ} {values : List (String × Value)} :
        Sees (readAll properties) seen values ↔
          Reads requests interface (properties.map Prod.fst) seen values :=
      ih fun entry hentry => h entry (List.mem_cons_of_mem _ hentry)
    rw [readAll_cons, List.map_cons]
    cases property with
    | fixed value =>
      rw [Property.read, pure_bind, sees_map_iff]
      constructor
      · rintro ⟨rest, hsees, rfl⟩
        exact .fixed hlast (hrest.1 hsees)
      · rintro (_ | ⟨hlast', hreads⟩ | ⟨s, hlast', hreads⟩)
        · obtain rfl := Property.fixed.inj (Option.some.inj (hlast.symm.trans hlast'))
          exact ⟨_, hrest.2 hreads, rfl⟩
        · cases hlast.symm.trans hlast'
    | computed getter =>
      rw [Property.read, sees_act_bind_iff]
      simp only [sees_map_iff]
      constructor
      · rintro ⟨s, seen, rfl, rest, hsees, rfl⟩
        exact .computed s hlast (hrest.1 hsees)
      · rintro (_ | ⟨hlast', hreads⟩ | ⟨s, hlast', hreads⟩)
        · cases hlast.symm.trans hlast'
        · obtain rfl := Property.computed.inj (Option.some.inj (hlast.symm.trans hlast'))
          exact ⟨s, _, rfl, _, hrest.2 hreads, rfl⟩

/-- Some names are those that were registered for an interface. As they ascend, each is there
    once. -/
structure AreNames (requests : List (Request σ)) (interface : String) (names : List String) :
    Prop where
  ascending : names.Pairwise (· < ·)
  mem_iff : ∀ name, name ∈ names ↔ (last? requests interface name).isSome

theorem Agrees.lookup_eq_last? (h : Agrees requests registry) {interface : String}
    {properties : Names (Property σ)}
    (hkept : registry.interfaces.lookup interface = some properties) (name : String) :
    properties.lookup name = last? requests interface name := by
  rw [← h.found, hkept, Option.getD_some]

theorem Agrees.nodup (h : Agrees requests registry) {interface : String}
    {properties : Names (Property σ)}
    (hkept : registry.interfaces.lookup interface = some properties) :
    (properties.map Prod.fst).Nodup :=
  List.pairwise_map.2 ((h.ascending interface properties hkept).imp fun hlt => String.ne_of_lt hlt)

theorem Agrees.last?_of_mem (h : Agrees requests registry) {interface : String}
    {properties : Names (Property σ)}
    (hkept : registry.interfaces.lookup interface = some properties)
    {entry : String × Property σ} (hentry : entry ∈ properties) :
    last? requests interface entry.1 = some entry.2 := by
  rw [← h.lookup_eq_last? hkept]
  exact (Names.lookup_eq_some_iff_mem (h.nodup hkept)).2 hentry

theorem Agrees.areNames (h : Agrees requests registry) {interface : String}
    {properties : Names (Property σ)}
    (hkept : registry.interfaces.lookup interface = some properties) :
    AreNames requests interface (properties.map Prod.fst) where
  ascending := List.pairwise_map.2 (h.ascending interface properties hkept)
  mem_iff name := by
    constructor
    · intro hname
      obtain ⟨entry, hentry, rfl⟩ := List.mem_map.1 hname
      rw [h.last?_of_mem hkept hentry]
      rfl
    · intro hsome
      obtain ⟨property, hlast⟩ := Option.isSome_iff_exists.1 hsome
      rw [← h.lookup_eq_last? hkept] at hlast
      exact List.mem_map_of_mem ((Names.lookup_eq_some_iff_mem (h.nodup hkept)).1 hlast)

theorem getAll_eq {interface : String} {properties : Names (Property σ)}
    (hkept : registry.interfaces.lookup interface = some properties) :
    registry.getAll interface = .ok <$> readAll properties := by
  simp only [Registry.getAll, hkept]
  exact (map_eq_pure_bind _ _).symm

/-- All the properties of an interface are read as they were registered last. -/
theorem Agrees.sees_getAll_iff (h : Agrees requests registry) {interface : String}
    {properties : Names (Property σ)}
    (hkept : registry.interfaces.lookup interface = some properties) {seen : List σ}
    {result : Except PropertyError (List (String × Value))} :
    Sees (registry.getAll interface) seen result ↔
      ∃ values, Reads requests interface (properties.map Prod.fst) seen values ∧
        result = .ok values := by
  simp only [getAll_eq hkept, sees_map_iff,
    sees_readAll_iff fun _ hentry => h.last?_of_mem hkept hentry]

/-! ## Runs of requests -/

/-- What a registry answers after some requests, step by step. -/
structure LastWrites (requests : List (Request σ)) (registry : Registry σ) : Prop where
  /-- What is read is what was registered last by just these names. If it is fixed, it is there
      without a step. -/
  get_of_fixed : ∀ interface name value,
    last? requests interface name = some (.fixed value) →
      registry.get interface name = .done (.ok value)
  /-- If it is computed, the one step is its evaluation in the state that is found. -/
  get_of_computed : ∀ interface name getter,
    last? requests interface name = some (.computed getter) →
      registry.get interface name =
        .step (fun s => (getter s).2) fun s => .done (.ok (getter s).1)
  get_of_known : ∀ interface name, Known requests interface →
    last? requests interface name = none →
      registry.get interface name = .done (.error (.unknownProperty name))
  get_of_not_known : ∀ interface name, ¬Known requests interface →
    registry.get interface name = .done (.error (.unknownInterface interface))
  /-- All the names of an interface are read one after the other, each once, and each as it would
      be by itself. -/
  getAll_of_known : ∀ interface, Known requests interface → ∃ names,
    AreNames requests interface names ∧
      ExceptT.mk (registry.getAll interface) = (names.mapM fun name => do
        return (name, ← ExceptT.mk (registry.get interface name))) ∧
      ∀ seen result, Sees (registry.getAll interface) seen result ↔
        ∃ values, Reads requests interface names seen values ∧ result = .ok values
  getAll_of_not_known : ∀ interface, ¬Known requests interface →
    registry.getAll interface = .done (.error (.unknownInterface interface))
  /-- Nothing can be written, whether or not it was registered. -/
  set_eq : ∀ interface name value, registry.set interface name value = .error (.notWritable name)
  /-- What comes later is done and answered as if nobody had tried to. -/
  set_cons : ∀ interface name value later,
    registry.performAll (.set interface name value :: later) =
      (fun (answers, kept) => (.written (.error (.notWritable name)) :: answers, kept)) <$>
        registry.performAll later

theorem Agrees.lastWrites (h : Agrees requests registry) : LastWrites requests registry where
  get_of_fixed _ _ _ hlast := h.get_of_last? hlast
  get_of_computed _ _ _ hlast := h.get_of_last? hlast
  get_of_known _ _ hknown hlast := h.get_of_known hknown hlast
  get_of_not_known _ name hknown := h.get_of_not_known hknown name
  getAll_of_known interface hknown := by
    obtain ⟨properties, hkept⟩ := h.known_iff.1 hknown
    refine ⟨properties.map Prod.fst, h.areNames hkept, ?_, fun _ _ => h.sees_getAll_iff hkept⟩
    rw [getAll_eq hkept]
    exact readAll_eq fun entry hentry => h.get_of_last? (h.last?_of_mem hkept hentry)
  getAll_of_not_known _ := h.getAll_of_not_known
  set_eq _ _ _ := rfl
  set_cons _ _ _ _ := by
    rw [Registry.performAll, map_eq_pure_bind]
    rfl

/-- After any requests, and whatever others have done meanwhile, a registry is a map of what was
    registered last. -/
theorem lastWrites_performAll (requests : List (Request σ)) (others : Nat → σ → σ) (s : σ) :
    LastWrites requests ((({} : Registry σ).performAll requests).runAmid others (0, s)).1.2 :=
  (agrees_nil.performAll requests others (0, s)).lastWrites

end Registry

end VpnTray.Bus
