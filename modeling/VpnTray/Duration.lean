/-!
# Durations

How long the connection has been up is shown in two places, with two texts for
the same rounding: whole seconds below a minute, whole minutes below a day, and
whole hours from then on.

* `Duration.label`: the short text in the menu, `45s`, `12m`, `3h 4m`, `2d 5h`;
* `Duration.words`: the text in the connection details, `45 seconds`,
  `12 minutes`, `3h 4m`, `2 hours`, `2d 5h`, `3 days`.

A part that would be zero is left out.
-/

namespace VpnTray

/-- A length of time, in nanoseconds. -/
structure Duration where
  nanos : Nat
deriving DecidableEq, Repr

namespace Duration

/-- How many nanoseconds make a second. -/
def nanosPerSec : Nat := 1000000000

/-- How many nanoseconds make a millisecond. -/
def nanosPerMilli : Nat := 1000000

/-- The duration of some seconds and nanoseconds. -/
def ofSecs (secs : Nat) (nanos : Nat := 0) : Duration := ⟨secs * nanosPerSec + nanos⟩

/-- The duration of some milliseconds. -/
def ofMillis (millis : Nat) : Duration := ⟨millis * nanosPerMilli⟩

/-- The whole seconds in a duration. -/
def secs (d : Duration) : Nat := d.nanos / nanosPerSec

/-- The nanoseconds beyond the whole seconds. -/
def subsecNanos (d : Duration) : Nat := d.nanos % nanosPerSec

@[simp] theorem secs_ofSecs {s n : Nat} (h : n < nanosPerSec) : (ofSecs s n).secs = s := by
  simp only [nanosPerSec] at h
  simp only [ofSecs, secs, nanosPerSec]
  omega

/-- The short text of a duration, as the menu shows it. -/
def label (d : Duration) : String :=
  let secs := d.secs
  let hours := secs / 3600
  if secs < 60 then s!"{secs}s"
  else if secs < 3600 then s!"{secs / 60}m"
  else if hours < 24 then
    match secs / 60 % 60 with
    | 0 => s!"{hours}h"
    | minutes => s!"{hours}h {minutes}m"
  else
    match hours % 24 with
    | 0 => s!"{hours / 24}d"
    | rest => s!"{hours / 24}d {rest}h"

/-- The text of a duration in the connection details. -/
def words (d : Duration) : String :=
  let secs := d.secs
  if secs < 60 then s!"{secs} seconds"
  else if secs < 3600 then s!"{secs / 60} minutes"
  else
    let hours := secs / 3600
    if hours < 24 then
      let minutes := secs / 60 % 60
      if 0 < minutes then s!"{hours}h {minutes}m" else s!"{hours} hours"
    else
      let days := hours / 24
      let rest := hours % 24
      if 0 < rest then s!"{days}d {rest}h" else s!"{days} days"

end Duration

/-- A moment, as the time that has passed since the clock was started. -/
structure Instant where
  sinceStart : Duration
deriving DecidableEq, Repr

/-- The time from `start` to `now`, which is none if `now` comes first. -/
def Instant.since (now start : Instant) : Duration :=
  ⟨now.sinceStart.nanos - start.sinceStart.nanos⟩

end VpnTray
