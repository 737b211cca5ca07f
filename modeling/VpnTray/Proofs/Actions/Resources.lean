import VpnTray.Proofs.Actions.Commands
import VpnTray.Proofs.Client.Resources

/-!
# Picking a resource

The user is shown the labels of the resources, and picks one. The client is then run to begin to
authenticate for the resource that has been picked, if that asks for it, and for no other one.

Whatever the programs print, nobody is authenticated for without having been picked: if the picker
is cancelled, or prints nothing or what is no label, the client is not run again. And as far as the
labels tell what they show, it is the picked resource for which it is run, once
(`authenticated_showResources`).
-/

namespace VpnTray

open Text Shell

namespace Client

variable (client : Client)

/-- The run that lists the resources. -/
def listingResources : Run := { program := client.program, args := ["resources", "-d"] }

/-- The run that begins to authenticate for a resource. -/
def authenticating (name : Text) : Run := { program := client.program, args := ["auth", name] }

/-- The client is run to authenticate, for whatever resources. -/
def Authenticates (r : Run) : Prop :=
  r.program = client.program ∧ r.args.head? = some "auth".toList

instance (r : Run) : Decidable (client.Authenticates r) := inferInstanceAs (Decidable (_ ∧ _))

/-- The runs in a log by which the client authenticates. -/
def authentications (log : Log) : List Run := (log.map (·.1)).filter (client.Authenticates ·)

/-- The runs to authenticate for a resource, if there is one and it asks for that. -/
def authenticatingFor (resource? : Option Resource) : List Run :=
  match resource? with
  | some resource => if resource.needsAuth then [client.authenticating resource.name] else []
  | none => []

end Client

/-- The picker of resources. -/
def resourcePicker (resources : List Resource) : Run :=
  Desktop.picker "Twingate Resources"
    "Available resources (select to authenticate locked resources):" "Resource"
    (resources.map Resource.label)

/-- The log up to the answer of the picker, when the client has listed the resources. -/
def offering (client : Client) (out err : Text) (answer : Outcome) : Log :=
  [(client.listingResources, .finished true out err),
    (resourcePicker (Resource.ofTable (out ++ err)), answer)]

/-- What is true of the programs that have been run while the resources were shown. -/
structure Authenticated (actions : Actions) (log : Log) : Prop where
  /-- The labels tell the resources of a table apart, if they tell what they show at all. -/
  labels : ∀ text, (∀ resource ∈ Resource.ofTable text, resource.Telling) →
    ∀ resource ∈ Resource.ofTable text, ∀ other ∈ Resource.ofTable text,
      resource.label = other.label → resource.name = other.name ∧
        resource.address = other.address ∧ resource.needsAuth = other.needsAuth
  /-- The resources are listed first, and if there are some, the user is asked to pick one. -/
  offered : ∃ listed rest, log = (actions.client.listingResources, listed) :: rest ∧
    ∀ out err, listed = .finished true out err → Resource.ofTable (out ++ err) ≠ [] →
      ∃ answer last, log = offering actions.client out err answer ++ last
  /-- The client authenticates for the resource that was picked, once, if that asks for it. -/
  picked : ∀ (out err complaints : Text) (k : Nat) (resource : Resource) (rest : Log),
    (∀ resource ∈ Resource.ofTable (out ++ err), resource.Telling) →
    (Resource.ofTable (out ++ err))[k]? = some resource →
    log = offering actions.client out err (.finished true (resource.label ++ ['\n']) complaints) ++
      rest →
      actions.client.authentications log =
        if resource.needsAuth then [actions.client.authenticating resource.name] else []
  /-- The client does not authenticate unless a label was picked. -/
  unpicked : (∀ (out err answer complaints : Text) (rest : Log),
    log = offering actions.client out err (.finished true answer complaints) ++ rest →
      ∀ resource ∈ Resource.ofTable (out ++ err), choice? answer ≠ some resource.label) →
    actions.client.authentications log = []

variable {actions : Actions} {client : Client} {log : Log} {u : Unit}

/-! ## Runs by which nobody authenticates -/

namespace Client

theorem authentications_append (log more : Log) :
    client.authentications (log ++ more) =
      client.authentications log ++ client.authentications more := by
  rw [authentications, List.map_append, List.filter_append]
  rfl

theorem authentications_of_only {α : Type} {work : Shell α} {a : α}
    (h : Only (fun r => ¬client.Authenticates r) work) (hends : Ends work log a) :
    client.authentications log = [] := by
  refine List.filter_eq_nil_iff.2 fun r hr => ?_
  obtain ⟨entry, hentry, rfl⟩ := List.mem_map.1 hr
  simpa using h log a hends entry hentry

theorem authentications_cons_of_not {r : Run} {outcome : Outcome} (h : ¬client.Authenticates r) :
    client.authentications ((r, outcome) :: log) = client.authentications log :=
  List.filter_cons_of_neg (by simpa using h)

theorem not_authenticates_listingResources : ¬client.Authenticates client.listingResources :=
  fun hauth => absurd (Option.some.inj hauth.2) (by decide)

theorem not_authenticates_resourcePicker (resources : List Resource) :
    ¬client.Authenticates (resourcePicker resources) :=
  fun hauth => absurd (Option.some.inj hauth.2) (by decide)

/-- To authenticate, the client is run once. -/
theorem log_of_authenticate {name : Text} {result : Except Error Unit}
    (h : Ends (client.authenticate name).run log result) :
    ∃ outcome, log = [(client.authenticating name, outcome)] := by
  obtain ⟨outcome, rfl, -⟩ := ends_output_pure_iff.1 h
  exact ⟨outcome, rfl⟩

end Client

namespace Desktop

theorem not_authenticates_notify (desktop : Desktop) (title body : Text) :
    Only (fun r => ¬client.Authenticates r) (desktop.notify title body) := by
  refine only_notify_of fun r hr hauth => ?_
  rw [notification] at hr
  split at hr
  · rw [List.mem_singleton.1 hr] at hauth
    exact absurd (Option.some.inj hauth.2) (by decide)
  · cases hr

theorem not_authenticates_showMessage (desktop : Desktop) (title text : Text) :
    Only (fun r => ¬client.Authenticates r) (desktop.showMessage title text) := by
  refine only_showMessage_of fun hauth => ?_
  rw [messageBox] at hauth
  split at hauth
  · exact absurd (Option.some.inj hauth.2) (by decide)
  · exact absurd (Option.some.inj hauth.2) (by decide)

end Desktop

namespace Actions

/-! ## The steps of showing the resources -/

/-- Authenticates for the resource with a label, if it asks for that. -/
def authenticateFor (actions : Actions) (resources : List Resource) (row : Text) :
    Shell Unit := do
  let some resource := Resource.select? resources row | return
  if resource.needsAuth then actions.authenticate resource

/-- Lets the user pick one of some resources, unless there are none. -/
def offer (actions : Actions) (resources : List Resource) : Shell Unit := do
  if resources.isEmpty then
    actions.desktop.showMessage "Resources" "No resources available"
  else
    let some row ← Desktop.choose "Twingate Resources"
        "Available resources (select to authenticate locked resources):" "Resource"
        (resources.map Resource.label)
      | return
    actions.authenticateFor resources row

theorem showResources_eq :
    actions.showResources = actions.client.resources.run >>= fun
      | .error cause => actions.notifyFailure "Resources Error" "Failed to get resources" cause
      | .ok resources => actions.offer resources := rfl

/-- The resources are listed before anything else is done with them. -/
theorem ends_showResources (h : Ends actions.showResources log u) :
    ∃ outcome rest, log = (actions.client.listingResources, outcome) :: rest ∧
      ((∃ text, outcome.text actions.client.program actions.client.listingResources.args = .ok text ∧
        Ends (actions.offer (Resource.ofTable text)) rest u) ∨
      ∃ cause, outcome.text actions.client.program actions.client.listingResources.args =
          .error cause ∧
        Ends (actions.notifyFailure "Resources Error" "Failed to get resources" cause) rest u) :=
  ends_output_bind (showResources_eq ▸ h)

/-- The user is asked to pick a resource, if there are some. -/
theorem ends_offer {resources : List Resource} (h : Ends (actions.offer resources) log u) :
    (resources = [] ∧ actions.client.authentications log = []) ∨
      ∃ answer rest, log = (resourcePicker resources, answer) :: rest ∧
        match answer.out?.bind choice? with
        | none => rest = []
        | some row => Ends (actions.authenticateFor resources row) rest u := by
  rw [offer] at h
  split at h
  · next hempty =>
    exact .inl ⟨List.isEmpty_iff.1 hempty, Client.authentications_of_only
      (Desktop.not_authenticates_showMessage _ _ _) h⟩
  · obtain ⟨first, row?, rest, rfl, hfirst, hrest⟩ := ends_bind_iff.1 h
    obtain ⟨answer, rfl, rfl⟩ := Desktop.ends_choose_iff.1 hfirst
    refine .inr ⟨answer, rest, rfl, ?_⟩
    split
    · next hnone =>
      rw [hnone] at hrest
      exact (ends_pure_iff.1 hrest).1
    · next row hrow =>
      rw [hrow] at hrest
      exact hrest

/-- The user is told how it went, but the client authenticates once. -/
theorem authentications_of_authenticate {resource : Resource}
    (h : Ends (actions.authenticate resource) log u) :
    actions.client.authentications log = [actions.client.authenticating resource.name] := by
  obtain ⟨first, result, rest, rfl, hfirst, hrest⟩ := ends_bind_iff.1 h
  obtain ⟨outcome, rfl⟩ := Client.log_of_authenticate hfirst
  have hone : actions.client.authentications [(actions.client.authenticating resource.name,
      outcome)] = [actions.client.authenticating resource.name] :=
    List.filter_cons_of_pos (decide_eq_true ⟨rfl, rfl⟩)
  have hnone : actions.client.authentications rest = [] := by
    cases result with
    | ok _ =>
      exact Client.authentications_of_only (Desktop.not_authenticates_notify _ _ _) hrest
    | error _ =>
      exact Client.authentications_of_only (Desktop.not_authenticates_notify _ _ _) hrest
  rw [Client.authentications_append, hone, hnone, List.append_nil]

/-- With a label that was picked, the client authenticates for the first resource that has it. -/
theorem authentications_of_authenticateFor {resources : List Resource} {row : Text}
    (h : Ends (actions.authenticateFor resources row) log u) :
    actions.client.authentications log =
      actions.client.authenticatingFor (Resource.select? resources row) := by
  rw [authenticateFor] at h
  cases hselected : Resource.select? resources row with
  | none =>
    rw [hselected] at h
    obtain ⟨rfl, -⟩ := ends_pure_iff.1 h
    rfl
  | some resource =>
    rw [hselected] at h
    dsimp only at h
    rw [Client.authenticatingFor]
    split at h
    · next hlocked =>
      rw [if_pos hlocked]
      exact authentications_of_authenticate h
    · next hlocked =>
      obtain ⟨rfl, -⟩ := ends_pure_iff.1 h
      exact (if_neg hlocked).symm

/-- What is done once the picker has answered depends on the label that was picked. -/
theorem authentications_of_answer {resources : List Resource} {answer : Outcome} {rest : Log}
    (h : match answer.out?.bind choice? with
      | none => rest = []
      | some row => Ends (actions.authenticateFor resources row) rest u) :
    actions.client.authentications rest = actions.client.authenticatingFor
      ((answer.out?.bind choice?).bind (Resource.select? resources)) := by
  cases hrow : answer.out?.bind choice? with
  | none =>
    rw [hrow] at h
    exact congrArg actions.client.authentications h
  | some row =>
    rw [hrow] at h
    exact authentications_of_authenticateFor h

/-- Without an answer of the picker, the client does not authenticate. With one, it authenticates
    for the first resource of which the label was picked, if there is one. -/
theorem authentications_of_showResources (h : Ends actions.showResources log u) :
    (∃ listed rest, log = (actions.client.listingResources, listed) :: rest ∧
      (∀ out err, listed = .finished true out err → Resource.ofTable (out ++ err) = []) ∧
      actions.client.authentications log = []) ∨
    ∃ out err answer rest, log = offering actions.client out err answer ++ rest ∧
      actions.client.authentications log = actions.client.authenticatingFor
        ((answer.out?.bind choice?).bind (Resource.select? (Resource.ofTable (out ++ err)))) := by
  obtain ⟨listed, rest, rfl, hrest⟩ := ends_showResources h
  rw [Client.authentications_cons_of_not Client.not_authenticates_listingResources]
  rcases hrest with ⟨text, htext, hoffer⟩ | ⟨cause, hcause, hnotify⟩
  · rcases ends_offer hoffer with ⟨hempty, hnone⟩ | ⟨answer, rest, rfl, hanswer⟩
    · -- There is nothing to pick.
      refine .inl ⟨listed, rest, rfl, ?_, hnone⟩
      rintro out err rfl
      exact Except.ok.inj htext ▸ hempty
    · match listed with
      | .finished true out err =>
        obtain rfl : out ++ err = text := Except.ok.inj htext
        refine .inr ⟨out, err, answer, rest, rfl, ?_⟩
        rw [Client.authentications_cons_of_not (Client.not_authenticates_resourcePicker _)]
        exact authentications_of_answer hanswer
  · -- The client could not list anything.
    refine .inl ⟨listed, rest, rfl, ?_, Client.authentications_of_only
      (Desktop.not_authenticates_notify _ _ _) hnotify⟩
    rintro out err rfl
    cases hcause

/-- Once the picker has answered, the client authenticates for the resource that was picked, also
    if there was none to pick. -/
theorem authentications_of_offering {out err : Text} {answer : Outcome} {rest : Log}
    (h : Ends actions.showResources (offering actions.client out err answer ++ rest) u) :
    actions.client.authentications (offering actions.client out err answer ++ rest) =
      actions.client.authenticatingFor
        ((answer.out?.bind choice?).bind (Resource.select? (Resource.ofTable (out ++ err)))) := by
  rcases authentications_of_showResources h with
    ⟨listed, rest', hlog, hempty, hnone⟩ | ⟨out', err', answer', rest', hlog, hauth⟩
  · -- Of no resources, none is the first one with a label.
    obtain ⟨hlisted, -⟩ := List.cons.inj hlog
    have hselect : ∀ row, Resource.select? [] row = none := fun _ => rfl
    rw [hnone, hempty out err (congrArg Prod.snd hlisted).symm]
    cases answer.out?.bind choice? with
    | none => rfl
    | some row => rw [Option.bind_some, hselect, Client.authenticatingFor]
  · obtain ⟨hlisted, hrest⟩ := List.cons.inj hlog
    obtain ⟨rfl, rfl⟩ : out = out' ∧ err = err' := by simpa using hlisted
    obtain rfl := congrArg Prod.snd (List.cons.inj hrest).1
    exact hauth

/-- With the label of a resource, the client authenticates for that one, if it asks for that. -/
theorem authenticatingFor_select?_label {resources : List Resource} {resource : Resource}
    (htelling : ∀ resource ∈ resources, resource.Telling) (hmem : resource ∈ resources) :
    client.authenticatingFor (Resource.select? resources resource.label) =
      if resource.needsAuth then [client.authenticating resource.name] else [] := by
  -- The first resource with the label shows what this one shows.
  obtain ⟨found, hfound, hname, hlocked⟩ := Resource.exists_select?_label htelling hmem
  rw [hfound, Client.authenticatingFor, hname, hlocked]

/-- With what is no label, the client does not authenticate. -/
theorem authenticatingFor_of_no_label {resources : List Resource} {row? : Option Text}
    (h : ∀ resource ∈ resources, row? ≠ some resource.label) :
    client.authenticatingFor (row?.bind (Resource.select? resources)) = [] := by
  cases row? with
  | none => rfl
  | some row =>
    rw [Option.bind_some, Resource.select?_eq_none fun resource hmem hrow =>
      h resource hmem (congrArg some hrow.symm), Client.authenticatingFor]

/-- Whatever the programs print, the client authenticates for the picked resource only. -/
theorem authenticated_showResources (actions : Actions) (limit : Nat) (now : Int) {σ : Type}
    (machine : Run → σ → Outcome × σ) (s : σ) :
    Authenticated actions ((actions.handle limit now .showResources).log machine s) := by
  obtain ⟨⟨_, hends⟩, -⟩ :=
    ends_bind_pure_iff.1 (ends_log machine (actions.handle limit now .showResources) s)
  refine ⟨?labels, ?offered, ?picked, ?unpicked⟩
  case labels =>
    intro text htelling resource hresource other hother
    exact Resource.label_inj (htelling resource hresource) (htelling other hother)
  case offered =>
    rcases authentications_of_showResources hends with
      ⟨listed, rest, hlog, hempty, -⟩ | ⟨out, err, answer, rest, hlog, -⟩
    · exact ⟨listed, rest, hlog, fun out err hlisted hne => absurd (hempty out err hlisted) hne⟩
    · refine ⟨.finished true out err, _, hlog, fun out' err' hlisted _ => ?_⟩
      obtain ⟨-, rfl, rfl⟩ := Outcome.finished.inj hlisted
      exact ⟨answer, rest, hlog⟩
  case picked =>
    intro out err complaints k resource rest htelling hk hlog
    have hmem := List.mem_of_getElem? hk
    rw [hlog] at hends ⊢
    rw [authentications_of_offering hends, Outcome.out?, Option.bind_some,
      Resource.choice?_label (Resource.trimmed_address hmem), Option.bind_some]
    exact authenticatingFor_select?_label htelling hmem
  case unpicked =>
    intro hunpicked
    rcases authentications_of_showResources hends with
      ⟨-, -, -, -, hnone⟩ | ⟨out, err, answer, rest, hlog, hauth⟩
    · exact hnone
    · rw [hauth]
      refine authenticatingFor_of_no_label fun resource hmem hlabel => ?_
      obtain ⟨picked, hout, hrow⟩ := Option.bind_eq_some_iff.1 hlabel
      obtain ⟨complaints, rfl⟩ := Outcome.exists_of_out? hout
      exact hunpicked out err picked complaints rest hlog resource hmem hrow

/-- Of two resources with one name, the second one is picked, which is locked. -/
example :
    let actions : Actions := { client := { program := "twingate" }, desktop := {} }
    let machine (r : Run) (_ : Unit) : Outcome × Unit :=
      if r.program = "zenity" then (.finished true "db | 10.0.0.2 [Locked]\n" [], ())
      else (.finished true
        "NAME\tADDRESS\tALIAS\tSTATUS\ndb\t10.0.0.1\t-\tok\ndb\t10.0.0.2\t-\tlocked\n" [], ())
    actions.client.authentications ((actions.handle 0 0 .showResources).log machine ()) =
      [actions.client.authenticating "db"] := by decide +kernel

end Actions

end VpnTray
