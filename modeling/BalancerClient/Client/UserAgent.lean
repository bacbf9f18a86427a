import BalancerClient.Client.Settings

/-!
# The user agent

Every request says what sends it: the platform, the version of the core and the client of the
service.

## Main definitions

* `Platform` - the machine and the compiler of a program.
* `userAgent` - the text.
-/

namespace BalancerClient

/-- The machine that a program runs on, and the version of the compiler that made it. -/
structure Platform where
  system : String
  architecture : String
  compiler : String
  deriving DecidableEq, Repr

/-- The version of the core that all clients share. -/
def coreVersion : String := "0.1.0"

/-- The user agent of a client. -/
def userAgent (platform : Platform) (info : ServiceInfo) : String :=
  "AlibabaCloud (" ++ platform.system ++ "; " ++ platform.architecture ++ ") Rust/" ++
    platform.compiler ++ " Core/" ++ coreVersion ++ " " ++ info.product ++ "/" ++
      info.clientVersion

end BalancerClient
