import VpnTray.Duration
import VpnTray.Monitor.Basic

/-!
# The times of the monitor

The monitor checks the status at regular times, and so it brings the connection time
up to date; both begin when the monitor does. Each of the two is a timer, with a
period that is not zero.

* `Timer.due`: when a timer is due up to a time;
* `Schedule.due`: what is due up to a time, in the order of the times.
-/

namespace VpnTray

/-- Something that is due at a time and again after every period. Times and periods are in
    milliseconds. -/
structure Timer where
  next : Nat
  period : Nat
  period_pos : 0 < period

namespace Timer

/-- How often a timer is due up to and at a time. -/
def count (timer : Timer) (time : Nat) : Nat :=
  if timer.next ≤ time then (time - timer.next) / timer.period + 1 else 0

/-- When a timer is due up to and at a time. -/
def due (timer : Timer) (time : Nat) : List Nat :=
  (List.range (timer.count time)).map fun n => timer.next + n * timer.period

/-- The timer after all that is due up to and at a time. -/
def after (timer : Timer) (time : Nat) : Timer :=
  { timer with next := timer.next + timer.count time * timer.period }

/-- After it has been due, a timer is due at a later time only. -/
theorem lt_next_after (timer : Timer) (time : Nat) : time < (timer.after time).next := by
  unfold after count
  split
  · rename_i h
    have hmod := Nat.mod_lt (time - timer.next) timer.period_pos
    have hdiv := Nat.div_add_mod (time - timer.next) timer.period
    simp only [Nat.add_mul, Nat.one_mul]
    rw [Nat.mul_comm] at hdiv
    omega
  · simp only
    omega

end Timer

/-- The timers of the monitor. -/
structure Schedule where
  poll : Timer
  clock : Timer

namespace Schedule

/-- The time from one look at the connection clock to the next, in milliseconds. -/
def clockPeriod : Nat := 30000

/-- The schedule of a monitor that begins at a time. -/
def begin (time interval : Nat) (h : 0 < interval) : Schedule where
  poll := ⟨time, interval, h⟩
  clock := ⟨time, clockPeriod, by decide⟩

/-- What is due up to and at a time, in the order of the times. -/
def due (schedule : Schedule) (time : Nat) : List Occasion :=
  let polls := (schedule.poll.due time).map (·, Occasion.poll)
  let clocks := (schedule.clock.due time).map (·, Occasion.clock)
  ((polls ++ clocks).mergeSort fun a b => a.1 ≤ b.1).map (·.2)

/-- The schedule after all that is due up to and at a time. -/
def after (schedule : Schedule) (time : Nat) : Schedule where
  poll := schedule.poll.after time
  clock := schedule.clock.after time

end Schedule

end VpnTray
