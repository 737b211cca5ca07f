import VpnTray.Duration
import VpnTray.Text.Basic

/-!
# Configuration

What the user can set: how often the client is asked for its status, whether and
for how long notifications are shown, and which program the client is.
-/

namespace VpnTray

/-- The settings of the tray, with their defaults. -/
structure Config where
  /-- The time from one status check to the next, in milliseconds. -/
  pollIntervalMs : UInt64 := 500
  /-- Notifications are shown. -/
  notifications : Bool := true
  /-- How long a notification is shown, in milliseconds. -/
  notificationTimeoutMs : UInt32 := 5000
  /-- The name or the path of the client's program. -/
  client : Text := "twingate"
deriving DecidableEq, Repr

namespace Config

/-- The time from one status check to the next. -/
def pollInterval (config : Config) : Duration := .ofMillis config.pollIntervalMs.toNat

/-- A setting by itself. -/
inductive Field
  | pollInterval
  | notifications
  | notificationTimeout
  | client
deriving DecidableEq, Repr

/-- The settings in the order of a configuration that is a list. -/
def Field.all : List Field := [.pollInterval, .notifications, .notificationTimeout, .client]

/-- The name of a setting in the configuration file. -/
def Field.name : Field → String
  | .pollInterval => "poll_interval_ms"
  | .notifications => "notifications"
  | .notificationTimeout => "notification_timeout_ms"
  | .client => "cli"

/-- The setting of a name. -/
def Field.ofName? (name : Text) : Option Field := all.find? (·.name.toList = name)

@[simp] theorem Field.ofName?_name (field : Field) : ofName? field.name = some field := by
  cases field <;> decide

end Config

end VpnTray
