import BalancerClient.Http.Form
import BalancerClient.Http.Url
import BalancerClient.Text.Base64

/-!
# URLs in writing

Before a request leaves, its URL is written out.  A name in front of the host goes into a
header field if it can be read, together with the password behind it; otherwise it stays where
it is.  The host is written in its shortest form, and the port only if the scheme means
another one.  What is written may not be longer than the transport can take, nor may the host
hold characters that the transport does not take there.

## Main definitions

* `Url.basic?` - the value of the header field for the name and the password.
* `Url.text` - a URL in writing, with parameters added to its query.
* `Url.isTaken` - whether the transport takes a URL.
-/

namespace BalancerClient

namespace Ipv4

/-- An address as four numbers between points. -/
def text (address : Nat) : List Char :=
  Text.glue '.' ([16777216, 65536, 256, 1].map fun weight =>
    Nat.toDigits 10 (address / weight % 256))

end Ipv4

namespace Ipv6

/-- The number of zeros at the start. -/
def zeros (groups : List Nat) : Nat := (groups.takeWhile (· == 0)).length

/-- The longest run of zeros: where it starts and how long it is.  Of several the first
counts. -/
def gap : List Nat → Nat × Nat
  | [] => (0, 0)
  | g :: rest =>
    let (start, length) := gap rest
    if length ≤ zeros (g :: rest) then (0, zeros (g :: rest)) else (start + 1, length)

/-- Groups between colons. -/
def join (groups : List Nat) : List Char := Text.glue ':' (groups.map (Nat.toDigits 16))

/-- An address as groups between colons; two colons stand for the longest run of two zeros or
more. -/
def text (groups : List Nat) : List Char :=
  let (start, length) := gap groups
  if length < 2 then join groups
  else join (groups.take start) ++ ':' :: ':' :: join (groups.drop (start + length))

end Ipv6

namespace Host

/-- A label of a domain in ASCII. -/
def label (cs : List Char) : List Char :=
  if cs.all fun c => c.toNat < 128 then cs else ['x', 'n', '-', '-'] ++ Punycode.encode cs

/-- A host in writing. -/
def text : Host → List Char
  | domain name => Text.glue '.' ((Text.pieces (· == '.') name).map label)
  | ipv4 address => Ipv4.text address
  | ipv6 groups => '[' :: Ipv6.text groups ++ [']']
  | plain name => name

/-- Whether the transport takes a host. -/
def isTaken (h : Host) : Bool := h.text.all fun c => !"\"`\x7b\x7d".toList.contains c

end Host

namespace Url

/-! ## Users -/

/-- The name in front of the host. -/
def userName (u : Url) : List Char := u.user.takeWhile (· != ':')

/-- The password behind the name. -/
def password (u : Url) : List Char := (u.user.dropWhile (· != ':')).drop 1

/-- The text that percent-encoded octets stand for. -/
def readUser? (cs : List Char) : Option String := Utf8.decode? (percentDecode cs)

/-- The value of the header field for the name and the password, unless there are none or the
name cannot be read.  A password that cannot be read is left out. -/
def basic? (u : Url) : Option String := do
  let name ← readUser? u.userName
  let password := if u.password.isEmpty then none else readUser? u.password
  if name.isEmpty && password.isNone then none
  else some ("Basic " ++
    String.ofList (Base64.encode (Utf8.encode (name ++ ":" ++ password.getD ""))))

/-- Whether a character is percent-encoded in a name or a password. -/
def isEscapedInUser (c : Char) : Bool := isEscapedInPath c || "/:;=@[\\]|".toList.contains c

/-- What is written in front of the host: a name that cannot be read. -/
def userText (u : Url) : List Char :=
  if u.basic?.isSome || (u.userName.isEmpty && u.password.isEmpty) then []
  else
    let password := if u.password.isEmpty then [] else ':' ::
        escape isEscapedInUser u.password
    escape isEscapedInUser u.userName ++ password ++ ['@']

/-! ## Writing -/

/-- The port that a scheme means. -/
def usualPort (scheme : String) : Nat := if scheme = "https" then 443 else 80

/-- What is written behind the host for its port. -/
def portText (u : Url) : List Char :=
  match u.port with
  | none => []
  | some port => if port = usualPort u.scheme then [] else ':' :: Nat.toDigits 10 port

/-- Whether a character is percent-encoded behind the number sign. -/
def isEscapedInFragment (c : Char) : Bool :=
  c.toNat ≤ 32 || 126 < c.toNat || "\"<>`".toList.contains c

/-- What stands behind the path and the query, with its number sign. -/
def fragmentText (u : Url) : List Char :=
  match u.rest.dropWhile (· != '#') with
  | [] => []
  | mark :: text => mark :: escape isEscapedInFragment text

/-- The query of a URL with parameters added to it. -/
def queryWith (u : Url) (pairs : List (String × String)) : Option (List Char) :=
  if pairs.isEmpty then u.query?
  else
    let added := (Form.encode pairs).toList
    match u.query? with
    | none | some [] => some added
    | some present => some (present ++ '&' :: added)

/-- The path of a URL, and its query with parameters added to it. -/
def targetText (u : Url) (pairs : List (String × String)) : List Char :=
  match u.queryWith pairs with
  | none => u.path
  | some query => u.path ++ '?' :: query

/-- A URL in writing, with parameters added to its query. -/
def text (u : Url) (pairs : List (String × String)) : List Char :=
  u.scheme.toList ++ [':', '/', '/'] ++ u.userText ++ (u.host.elim [] Host.text) ++
    u.portText ++ u.targetText pairs ++ u.fragmentText

/-- The greatest number of octets of a URL that the transport takes. -/
def maxText : Nat := 65534

/-- Whether the transport takes a URL: it is of the web, names a host, and is not too long. -/
def isTaken (u : Url) (pairs : List (String × String)) : Bool :=
  ["http", "https"].contains u.scheme && u.host.any Host.isTaken &&
    (u.text pairs).length ≤ maxText

end Url

end BalancerClient
