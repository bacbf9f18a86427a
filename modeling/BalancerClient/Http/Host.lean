import BalancerClient.Http.Address
import BalancerClient.Http.Domain
import BalancerClient.Http.Percent

/-!
# Hosts

The host of a URL is an address in brackets, or a domain name; a name whose last label is a
number has to be an address as well.  Schemes that have no rules of their own take the host as
it is written.

## Main definitions

* `UrlFault` - what is wrong with a URL, with its message.
* `Host` - a host; `Host.ofChars`, `Host.ofPlainChars` read one.
-/

namespace BalancerClient

/-- What is wrong with a URL. -/
inductive UrlFault where
  | noScheme
  | emptyHost
  | badDomain
  | badHostCharacter
  | badIpv4
  | badIpv6
  | badPort
  deriving DecidableEq, Repr

/-- The fault in words. -/
def UrlFault.message : UrlFault → String
  | .noScheme => "relative URL without a base"
  | .emptyHost => "empty host"
  | .badDomain => "invalid international domain name"
  | .badHostCharacter => "invalid domain character"
  | .badIpv4 => "invalid IPv4 address"
  | .badIpv6 => "invalid IPv6 address"
  | .badPort => "invalid port number"

/-- A host. -/
inductive Host where
  | domain (name : List Char)
  | ipv4 (address : Nat)
  | ipv6 (groups : List Nat)
  /-- A name that is taken as it is written. -/
  | plain (name : List Char)
  deriving DecidableEq, Repr

namespace Host

/-- The characters of an address in brackets. -/
def bracketed? : List Char → Option (List Char)
  | '[' :: rest => if rest.getLast? = some ']' then some rest.dropLast else some []
  | _ => none

/-- An address in brackets. -/
def ofBrackets (cs : List Char) : Except UrlFault Host :=
  match Ipv6.ofChars? cs with
  | some groups => .ok (.ipv6 groups)
  | none => .error .badIpv6

/-- A domain name in canonical form, or the address that it is meant as. -/
def ofDomain (name : List Char) : Except UrlFault Host :=
  if name.isEmpty then .error .emptyHost
  else if Ipv4.isMeant name then
    match Ipv4.ofChars? name with
    | some address => .ok (.ipv4 address)
    | none => .error .badIpv4
  else .ok (.domain name)

/-- The canonical form of a name that may be percent-encoded. -/
def domainName? (cs : List Char) : Option (List Char) := do
  let text ← Utf8.decode? (percentDecode cs)
  Domain.ofChars? text.toList

/-- Reads a host. -/
def ofChars (cs : List Char) : Except UrlFault Host :=
  match bracketed? cs with
  | some inner => ofBrackets inner
  | none =>
    match domainName? cs with
    | some name => ofDomain name
    | none => .error .badDomain

/-- Whether a character may not stand in a host that is taken as it is written. -/
def isForbidden (c : Char) : Bool := "\x00\t\n\r #/:<>?@[\\]^|".toList.contains c

/-- Reads a host for a scheme without rules of its own; it may be empty. -/
def ofPlainChars (cs : List Char) : Except UrlFault (Option Host) :=
  match bracketed? cs with
  | some inner => (ofBrackets inner).map some
  | none =>
    if cs.any isForbidden then .error .badHostCharacter
    else .ok (if cs.isEmpty then none else some (.plain cs))

end Host

end BalancerClient
