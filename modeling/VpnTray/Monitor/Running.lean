import VpnTray.Monitor.Schedule

/-!
# The monitor at work

Once the monitor has begun, it acts on what is due, and on what it is asked, one after
the other. What it is asked before waits for it.

* `Running.begin`, `Running.ask`, `Running.pass`: what can happen to the monitor.
-/

namespace VpnTray

/-- The monitor with its time in milliseconds, its schedule once it has begun, and what it
    has been asked before. -/
structure Running where
  watched : Watched := {}
  time : Nat := 0
  schedule : Option Schedule := none
  waiting : List Refresh := []

namespace Running

/-- Work of the monitor. -/
abbrev Work := StateT Running Shell

variable (monitor : Monitor)

/-- Does something with what is watched. -/
def watching {α : Type} (work : Watching α) : Work α := do
  let (result, watched) ← (work.run (← get).watched : Shell _)
  modify ({ · with watched })
  return result

/-- Acts on some occasions, one after the other. -/
def actOn (now : Instant) : List Occasion → Work Unit
  | [] => return
  | occasion :: occasions => do
    watching (monitor.handle now occasion)
    actOn now occasions

/-- Acts on all that is due. -/
def catchUp (now : Instant) : Work Unit := do
  let running ← get
  if let some schedule := running.schedule then
    set { running with schedule := some (schedule.after running.time) }
    actOn monitor now (schedule.due running.time)

/-- Begins, with a look at the auto-connect setting. -/
def begin (now : Instant) (interval : Nat) (h : 0 < interval) : Work Unit := do
  watching Monitor.refreshAutoConnect
  modify fun running => { running with schedule := some (.begin running.time interval h) }
  catchUp monitor now
  let waiting := (← get).waiting
  modify ({ · with waiting := [] })
  actOn monitor now (waiting.map .request)

/-- The monitor is asked to do something. -/
def ask (now : Instant) (what : Refresh) : Work Unit := do
  if (← get).schedule.isSome then watching (monitor.handle now (.request what))
  else modify fun running => { running with waiting := running.waiting ++ [what] }

/-- Some milliseconds pass. -/
def pass (now : Instant) (millis : Nat) : Work Unit := do
  modify fun running => { running with time := running.time + millis }
  catchUp monitor now

end Running

end VpnTray
