import VpnTray.Config.Reader
import VpnTray.Files

/-!
# Loading the configuration

A configuration file need not be there, nor need its path lead anywhere; one that is
there has to be readable, and has to hold a configuration whose interval is not zero,
as the status check could not be repeated without a pause.
-/

namespace VpnTray.Config

/-- The configuration at a path. -/
def load (files : Files) (path : Path) : Except Error Config :=
  match files.lookup path with
  | .error _ => .ok {}
  | .ok _ =>
    match files.read path with
    | .error cause => .error (.io cause)
    | .ok text =>
      match ofJson text with
      | .error fault => .error (.config path fault)
      | .ok config => if config.pollIntervalMs = 0 then .error .zeroInterval else .ok config

/-- No interval that is loaded is zero. -/
theorem pollIntervalMs_ne_zero_of_load {files : Files} {path : Path} {config : Config}
    (h : load files path = .ok config) : config.pollIntervalMs ≠ 0 := by
  unfold load at h
  split at h
  · cases h
    decide
  · split at h
    · cases h
    · split at h
      · cases h
      · split at h <;> cases h
        assumption

end VpnTray.Config
