import VpnTray.ConnectionInfo.Basic
import VpnTray.Proofs.Shell.Log

/-!
# Where the details come from

The details of the connection come from eight runs of programs (`Source`), each of which has its
own details (`Source.details`), and no detail comes from two. A source reads what its run printed,
and uses that to replace its own details, which may keep their values, but no others.

So the details of a source are the same whatever the other programs do, and a run that fails only
has its own details keep their defaults (`Source.reset`, `independent`).
-/

namespace VpnTray

open Text

namespace ConnectionInfo

/-- What the details of a connection come from. -/
inductive Source
  | status
  | account
  | version
  | interface
  | dns
  | routes
  | resources
  | start
deriving DecidableEq, Repr

namespace Source

/-- The sources, in the order of their runs. -/
def all : List Source := [status, account, version, interface, dns, routes, resources, start]

/-- The run of a source. -/
def run (client : Client) : Source → Run
  | status => { program := client.program, args := ["status", "-v", "-d"] }
  | account => { program := client.program, args := ["account", "list", "-d"] }
  | version => { program := client.program, args := ["version"] }
  | interface => { program := "ip", args := ["addr", "show", interfaceName] }
  | dns => { program := "resolvectl", args := ["status", interfaceName] }
  | routes => { program := "ip", args := ["route", "show", "dev", interfaceName] }
  | resources => { program := client.program, args := ["resources", "-d"] }
  | start =>
    { program := "systemctl"
      args := ["show", service, "--property=ActiveEnterTimestamp", "--timestamp=unix"] }

/-- The details that come from a source. -/
def details : Source → ConnectionInfo → List Text
  | status, info => [info.status, info.secureDns]
  | account, info => [info.user, info.network, info.networkUrl]
  | version, info => [info.clientVersion]
  | interface, info => [info.interface, info.ipAddress]
  | dns, info => [info.dnsServers, info.dnsDomain]
  | routes, info => [info.routes]
  | resources, info => [info.resources]
  | start, info => [info.connectedSince]

/-- The details with those of a source at their defaults. -/
def reset : Source → ConnectionInfo → ConnectionInfo
  | status, info => { info with status := "Unknown", secureDns := "-" }
  | account, info => { info with user := "-", network := "-", networkUrl := "-" }
  | version, info => { info with clientVersion := "-" }
  | interface, info => { info with interface := "-", ipAddress := "-" }
  | dns, info => { info with dnsServers := "-", dnsDomain := "-" }
  | routes, info => { info with routes := "-" }
  | resources, info => { info with resources := "-" }
  | start, info => { info with connectedSince := "-" }

/-- What is read from the run of a source: all that the client printed, and what another program
    printed as its output, unless the run failed. -/
def read (client : Client) : Source → Outcome → Option Text
  | status, outcome => (outcome.text client.program (status.run client).args).toOption
  | account, outcome => (outcome.text client.program (account.run client).args).toOption
  | version, outcome => (outcome.text client.program (version.run client).args).toOption
  | resources, outcome => (outcome.text client.program (resources.run client).args).toOption
  | interface, outcome | dns, outcome | routes, outcome | start, outcome => outcome.out?

/-- The details with those of a source replaced by what was read from its run. -/
def use (now : Int) : Source → Text → ConnectionInfo → ConnectionInfo
  | status, output => withStatus output
  | account, output => withAccount ((Account.ofTable? output).getD .unknown)
  | version, output => withVersion output
  | interface, output => withInterface output
  | dns, output => withDns output
  | routes, output => withRoutes output
  | resources, output => withResources (Resource.ofTable output)
  | start, output => withStart now output

/-- The details with those of a source, of which the run has ended somehow. -/
def add (client : Client) (now : Int) (outcome : Outcome) (info : ConnectionInfo)
    (source : Source) : ConnectionInfo :=
  (source.read client outcome).elim info (source.use now · info)

/-- Runs a source, and adds what comes of it to the details. -/
def gather (client : Client) (now : Int) (info : ConnectionInfo) (source : Source) :
    Shell ConnectionInfo :=
  .run (source.run client) fun outcome => return source.add client now outcome info

end Source

/-- Programs that always do the same when they are run in the same way, as a machine. -/
def machineOf (programs : Run → Outcome) (r : Run) (u : Unit) : Outcome × Unit := (programs r, u)

/-- The details that are found out when the programs do as they do. -/
def gathered (client : Client) (now : Int) (programs : Run → Outcome) : ConnectionInfo :=
  ((gather client now).exec (machineOf programs) ()).1

/-- The details that are found out come from independent sources. -/
structure Independent (client : Client) (now : Int) : Prop where
  /-- Every source has its run, whatever comes of the others. -/
  runs : ∀ programs : Run → Outcome,
    (gather client now).log (machineOf programs) () =
      Source.all.map fun source => (source.run client, programs (source.run client))
  /-- The details of a source are told by how its run ends. -/
  agree : ∀ (programs others : Run → Outcome) (source : Source),
    programs (source.run client) = others (source.run client) →
      source.details (gathered client now programs) = source.details (gathered client now others)
  /-- The details of a source, and no others, are at their defaults because its run fails. -/
  failed : ∀ (programs others : Run → Outcome) (source : Source),
    (programs (source.run client)).succeeded = false →
    (∀ r ≠ source.run client, programs r = others r) →
      gathered client now programs = source.reset (gathered client now others)

namespace Source

variable {client : Client} {now : Int} {source other : Source} {info info' : ConnectionInfo}
  {outcome : Outcome} {output : Text}

/-! ## The runs -/

theorem mem_all (source : Source) : source ∈ all := by
  cases source <;> decide

theorem nodup_all : all.Nodup := by decide

/-- No two sources are run with the same arguments. -/
theorem run_injective (client : Client) : Function.Injective (run client) := by
  -- The arguments do not depend on the client, whatever its name is.
  have hargs : ∀ source other : Source,
      (source.run ⟨[]⟩).args = (other.run ⟨[]⟩).args → source = other := by
    intro source other
    cases source <;> cases other <;> decide
  have hany : ∀ source : Source, (source.run client).args = (source.run ⟨[]⟩).args := by
    intro source
    cases source <;> rfl
  intro source other h
  refine hargs source other ?_
  rw [← hany, ← hany, h]

theorem read_eq_none (h : outcome.succeeded = false) : source.read client outcome = none := by
  match outcome with
  | .refused _ => cases source <;> rfl
  | .unread => cases source <;> rfl
  | .finished false _ _ => cases source <;> rfl
  | .finished true _ _ => cases h

/-! ## The details of a source -/

/-- The details are those of all sources. -/
theorem ext_details (h : ∀ source : Source, source.details info = source.details info') :
    info = info' := by
  have hstatus := h status
  have haccount := h account
  have hversion := h version
  have hinterface := h interface
  have hdns := h dns
  have hroutes := h routes
  have hresources := h resources
  have hstart := h start
  simp only [details, List.cons.injEq, and_true] at *
  cases info
  cases info'
  simp_all

/-- A source leaves the details of the others alone. -/
theorem details_use_of_ne (h : other ≠ source) :
    other.details (source.use now output info) = other.details info := by
  cases source with
  | status | account | version | interface | dns | routes =>
    cases other <;> first | rfl | exact absurd rfl h
  | resources =>
    rw [use, withResources]
    split
    · rfl
    · cases other <;> first | rfl | exact absurd rfl h
  | start =>
    rw [use, withStart]
    split
    · rfl
    · cases other <;> first | rfl | exact absurd rfl h

theorem details_reset_of_ne (h : other ≠ source) :
    other.details (source.reset info) = other.details info := by
  cases source <;> cases other <;> first | rfl | exact absurd rfl h

theorem details_reset_self (source : Source) (info : ConnectionInfo) :
    source.details (source.reset info) = source.details {} := by
  cases source <;> rfl

/-- What a source makes of its details depends on them, and on what was read, alone. -/
theorem details_use_congr (h : source.details info = source.details info') :
    source.details (source.use now output info) =
      source.details (source.use now output info') := by
  cases source with
  | status | dns | interface | version | routes =>
    simp only [details, List.cons.injEq, and_true] at h
    simp [details, use, withStatus, withDns, withInterface, withVersion, withRoutes, h]
  | account => rfl
  | resources =>
    rw [use, withResources, withResources]
    split
    · exact h
    · rfl
  | start =>
    rw [use, withStart, withStart]
    split
    · exact h
    · rfl

theorem details_add_of_ne (h : other ≠ source) :
    other.details (source.add client now outcome info) = other.details info := by
  rw [add]
  cases source.read client outcome with
  | none => rfl
  | some output => exact details_use_of_ne h

theorem details_add_congr (h : source.details info = source.details info') :
    source.details (source.add client now outcome info) =
      source.details (source.add client now outcome info') := by
  rw [add, add]
  cases source.read client outcome with
  | none => exact h
  | some output => exact details_use_congr h

/-! ## One source after the other -/

/-- Asking the client for something that is read from its output is one run of the client. -/
theorem addFrom_output {α : Type} {args : List Text} {f : Text → α}
    {use : α → ConnectionInfo → ConnectionInfo} :
    addFrom (optional (client.output args >>= fun text => pure (f text))) use info =
      .run { program := client.program, args } fun outcome =>
        return (outcome.text client.program args).toOption.elim info fun text =>
          use (f text) info := by
  refine congrArg (Shell.run _) (funext fun outcome => ?_)
  match outcome with
  | .refused _ => rfl
  | .unread => rfl
  | .finished true _ _ => rfl
  | .finished false _ _ => rfl

/-- The details are gathered from one source after the other. -/
theorem gather_eq (client : Client) (now : Int) :
    ConnectionInfo.gather client now = all.foldlM (gather client now) {} := by
  have haccount : ∀ info, addFrom (optional client.account) withAccount info =
      gather client now info account := fun _ => addFrom_output
  have hresources : ∀ info, addFrom (optional client.resources) withResources info =
      gather client now info resources := fun _ => addFrom_output
  simp only [ConnectionInfo.gather, haccount, hresources]
  rfl

/-- The details that are found out from some sources, of which each adds what comes of it. -/
def addAll (client : Client) (now : Int) (programs : Run → Outcome) (sources : List Source)
    (info : ConnectionInfo) : ConnectionInfo :=
  sources.foldl
    (fun info source => source.add client now (programs (source.run client)) info) info

theorem exec_foldlM (programs : Run → Outcome) (sources : List Source) (info : ConnectionInfo) :
    ((sources.foldlM (gather client now) info).exec (machineOf programs) ()).1 =
      addAll client now programs sources info := by
  induction sources generalizing info with
  | nil => rfl
  | cons source sources ih => exact ih _

theorem log_foldlM (programs : Run → Outcome) (sources : List Source) (info : ConnectionInfo) :
    (sources.foldlM (gather client now) info).log (machineOf programs) () =
      sources.map fun source => (source.run client, programs (source.run client)) := by
  induction sources generalizing info with
  | nil => rfl
  | cons source sources ih => exact congrArg (List.cons _) (ih _)

theorem gathered_eq (client : Client) (now : Int) (programs : Run → Outcome) :
    gathered client now programs = addAll client now programs all {} := by
  rw [gathered, gather_eq, exec_foldlM]

/-- Sources leave the details of another one alone. -/
theorem details_addAll_of_notMem {programs : Run → Outcome} {sources : List Source}
    (h : source ∉ sources) :
    source.details (addAll client now programs sources info) = source.details info := by
  induction sources generalizing info with
  | nil => rfl
  | cons other sources ih =>
    rw [List.mem_cons, not_or] at h
    exact (ih h.2).trans (details_add_of_ne h.1)

/-- Wherever a source stands among others, its details are those that it alone has added. -/
theorem details_addAll_of_mem {programs : Run → Outcome} {sources : List Source}
    (hnodup : sources.Nodup) (hmem : source ∈ sources) :
    source.details (addAll client now programs sources info) =
      source.details (source.add client now (programs (source.run client)) info) := by
  induction sources generalizing info with
  | nil => cases hmem
  | cons first sources ih =>
    obtain ⟨hfirst, hnodup⟩ := List.nodup_cons.1 hnodup
    rcases List.mem_cons.1 hmem with rfl | hmem
    · exact details_addAll_of_notMem hfirst
    · -- What another source adds first makes no difference to what this one adds to.
      have hne : source ≠ first := fun heq => hfirst (heq ▸ hmem)
      exact (ih hnodup hmem).trans (details_add_congr (details_add_of_ne hne))

theorem details_gathered (source : Source) (client : Client) (now : Int)
    (programs : Run → Outcome) :
    source.details (gathered client now programs) =
      source.details (source.add client now (programs (source.run client)) {}) := by
  rw [gathered_eq]
  exact details_addAll_of_mem nodup_all (mem_all source)

end Source

/-- The eight sources do not depend on each other. -/
theorem independent (client : Client) (now : Int) : Independent client now := by
  have hagree : ∀ (programs others : Run → Outcome) (source : Source),
      programs (source.run client) = others (source.run client) →
      source.details (gathered client now programs) =
        source.details (gathered client now others) := by
    intro programs others source h
    rw [source.details_gathered, source.details_gathered, h]
  refine ⟨?runs, hagree, ?failed⟩
  case runs =>
    intro programs
    rw [Source.gather_eq, Source.log_foldlM]
  case failed =>
    intro programs others source hfailed hothers
    refine Source.ext_details fun other => ?_
    by_cases heq : other = source
    · -- Nothing is read from the failed run, so that the details are as they were at first.
      subst heq
      rw [other.details_gathered, Source.add, Source.read_eq_none hfailed,
        Source.details_reset_self]
      rfl
    · rw [Source.details_reset_of_ne heq]
      exact hagree programs others other
        (hothers _ ((Source.run_injective client).ne heq))

end ConnectionInfo

end VpnTray
