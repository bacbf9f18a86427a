/-!
# Options of a call

A call may add a text of its own to the user agent, and it may bound the time of its exchange.

## Main definitions

* `RequestOptions` - the options of a call, with their `set` functions.
-/

namespace BalancerClient

/-- The options of a call. -/
structure RequestOptions where
  /-- What the application adds to the user agent. -/
  userAgent : Option String := none
  /-- How long the exchange may take, in milliseconds. -/
  attemptTimeout : Option Nat := none
  deriving DecidableEq, Repr, Inhabited

namespace RequestOptions

/-- The options with another text for the user agent. -/
def setUserAgent (o : RequestOptions) (text : String) : RequestOptions :=
  { o with userAgent := some text }

/-- The options with another bound on the time. -/
def setAttemptTimeout (o : RequestOptions) (milliseconds : Nat) : RequestOptions :=
  { o with attemptTimeout := some milliseconds }

/-- A setting of one option. -/
inductive Step where
  | userAgent (text : String)
  | attemptTimeout (milliseconds : Nat)
  deriving DecidableEq, Repr

/-- The options after a setting. -/
def apply (o : RequestOptions) : Step → RequestOptions
  | .userAgent text => o.setUserAgent text
  | .attemptTimeout milliseconds => o.setAttemptTimeout milliseconds

end RequestOptions

end BalancerClient
