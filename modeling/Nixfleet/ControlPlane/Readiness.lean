import Nixfleet.ControlPlane.Published

set_option autoImplicit false

/-!
# When requests get through

The flags of what has been primed live as long as the process. So a request that gets through finds
a fleet that has been verified, and the lists that are required applied, since the process has
started: what an earlier process had verified does not count.
-/

namespace Nixfleet

section Flags

variable {cfg : DaemonConfig} {d : Daemon} {i : DaemonInput} {past : List DaemonInput}

end Flags

end Nixfleet
