import VpnTray.Lock.Basic

/-!
# Handles of one process

A process may have several handles on lock files, on one path or on different ones, and
uses one of them at a time. The handles are told apart by names. A handle that is
dropped gives its lock back first, and so does one whose name goes to a new handle,
once the new one is there.

* `Handles.step`: what is done with a handle.
-/

namespace VpnTray

/-- The handles of a process, by their names. -/
abbrev Handles := List (String × Lock)

namespace Handles

/-- What is done with the handle of a name. -/
inductive Use
  | make (path : Path)
  | acquire
  | release
  | drop
deriving DecidableEq, Repr

/-- The handle of a name. -/
def find? (handles : Handles) (name : String) : Option Lock := handles.lookup name

/-- The handles without that of a name. -/
def without (handles : Handles) (name : String) : Handles := handles.filter (·.1 ≠ name)

/-- The handles with another one for a name. -/
def put (handles : Handles) (name : String) (lock : Lock) : Handles :=
  (name, lock) :: handles.without name

/-- The names of the handles by which a lock is held. -/
def held (handles : Handles) : List String := (handles.filter (·.2.held)).map (·.1)

/-- Gives the lock of a name back, if there is one. -/
def giveBack (handles : Handles) (name : String) : Stepped Files (Option Lock) :=
  match handles.find? name with
  | none => return none
  | some lock => return some (← lock.release)

/-- Does something with the handle of a name. Only acquiring can fail, and then it leaves
    the handle as it is; without a handle nothing is done. -/
def step (processes : Processes) (name : String) (handles : Handles) :
    Use → Stepped Files (Except Error Unit × Handles)
  | .make path => do
    discard <| handles.giveBack name
    return (.ok (), handles.put name { path })
  | .acquire =>
    match handles.find? name with
    | none => return (.ok (), handles)
    | some lock => do
      match ← (lock.acquire processes).run with
      | .error cause => return (.error cause, handles)
      | .ok lock => return (.ok (), handles.put name lock)
  | .release => do
    match ← handles.giveBack name with
    | none => return (.ok (), handles)
    | some lock => return (.ok (), handles.put name lock)
  | .drop => do
    discard <| handles.giveBack name
    return (.ok (), handles.without name)

end Handles

end VpnTray
