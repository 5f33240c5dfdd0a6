import MwcSync.Run

set_option autoImplicit false

namespace MwcSync.BodySync

open RequestTracker

variable {peers : List Peer} {now : Nat} {env : Nat → Draw}

end MwcSync.BodySync
