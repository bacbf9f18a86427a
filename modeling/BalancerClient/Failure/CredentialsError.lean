/-!
# Failures to obtain credentials

A provider of credentials fails with a message or with another error as its cause, and says
whether trying again may help.

## Main definitions

* `CredentialsError` - the failure, with its message.
-/

namespace BalancerClient

/-- What made a provider fail: a message of its own, or another error given by its text. -/
inductive CredentialsError.Reason where
  | stated (text : String)
  | causedBy (source : String)
  deriving DecidableEq, Repr

/-- A failure to obtain credentials. -/
structure CredentialsError where
  transient : Bool
  reason : CredentialsError.Reason
  deriving DecidableEq, Repr

namespace CredentialsError

/-- The text of the reason. -/
def Reason.text : Reason → String
  | .stated text => text
  | .causedBy source => source

/-- The error that caused the failure. -/
def source? (e : CredentialsError) : Option String :=
  match e.reason with
  | .stated _ => none
  | .causedBy source => some source

/-- The failure in words. -/
def message (e : CredentialsError) : String :=
  "cannot create credentials headers, " ++
    (if e.transient then "but future attempts may succeed" else
      "and future attempts will not succeed") ++
    ": " ++ e.reason.text

end CredentialsError

end BalancerClient
