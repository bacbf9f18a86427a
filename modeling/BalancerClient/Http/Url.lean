import BalancerClient.Http.Host

/-!
# URLs

A URL is read leniently: blanks around it and line breaks inside it do not count, the usual
schemes may be followed by any number of slashes of either kind, and only the scheme, the host
and the port can be wrong.  What follows the host becomes a path without dot segments and a
query, both percent-encoded where they have to be.

## Main definitions

* `Url` - a URL; `Url.parse` reads one.
* `Url.path`, `Url.query?` - what a request asks the host for.
-/

namespace BalancerClient

/-- A URL: its scheme, its host and port, the text behind them, and the name of a user,
perhaps with a password behind a colon, that stands in front of the host. -/
structure Url where
  scheme : String
  host : Option Host
  port : Option Nat
  rest : List Char
  user : List Char
  deriving DecidableEq, Repr

namespace Url

/-- The kinds of schemes. -/
inductive SchemeKind where
  /-- A scheme whose URLs always have a host. -/
  | network
  /-- The scheme of local files. -/
  | file
  /-- Any other scheme. -/
  | other
  deriving DecidableEq, Repr

/-- The kind of a scheme. -/
def schemeKind (scheme : String) : SchemeKind :=
  if ["http", "https", "ws", "wss", "ftp"].contains scheme then .network
  else if scheme = "file" then .file
  else .other

/-- Whether a character may stand in a scheme. -/
def isSchemeChar (c : Char) : Bool := c.isAlphanum || c == '+' || c == '-' || c == '.'

/-- The text without blanks and controls around it and without line breaks and tabs inside
it. -/
def clean (cs : List Char) : List Char :=
  let trim (cs : List Char) := cs.dropWhile fun c => c.toNat ≤ 32
  (trim (trim cs).reverse).reverse.filter fun c => !(c == '\t' || c == '\n' || c == '\r')

/-- The scheme and the text behind its colon. -/
def scheme? (cs : List Char) : Option (String × List Char) :=
  match cs with
  | c :: _ =>
    if c.isAlpha then
      match cs.dropWhile isSchemeChar with
      | ':' :: rest =>
        some (String.ofList ((cs.takeWhile isSchemeChar).map Char.toLower), rest)
      | _ => none
    else none
  | [] => none

/-- Whether a character is a slash of either kind. -/
def isSlash (c : Char) : Bool := c == '/' || c == '\\'

/-- Whether a character ends the part of a URL that names the host. -/
def endsAuthority (kind : SchemeKind) (c : Char) : Bool :=
  c == '/' || c == '?' || c == '#' || (c == '\\' && kind != .other)

/-- The text before the last at sign, if there is one, and the text behind it. -/
def cutUser (cs : List Char) : Option (List Char) × List Char :=
  let behind := (cs.reverse.takeWhile (· != '@')).reverse
  if cs.contains '@' then (some (cs.take (cs.length - behind.length - 1)), behind)
  else (none, cs)

/-- The text before the first colon outside of brackets, and the text behind it. -/
def cutPort (inside : Bool) : List Char → List Char × Option (List Char)
  | [] => ([], none)
  | c :: rest =>
    if c = ':' ∧ !inside then ([], some rest)
    else
      let (host, port) := cutPort (c == '[' || (inside && c != ']')) rest
      (c :: host, port)

/-- Reads a port. -/
def readPort (cs : List Char) : Except UrlFault (Option Nat) :=
  let value := cs.foldl (fun n c => n * 10 + (c.toNat - 48)) 0
  if !cs.all Char.isDigit || 65535 < value then .error .badPort
  else .ok (if cs.isEmpty then none else some value)

/-- Reads a host for a scheme of a kind. -/
def readHost (kind : SchemeKind) (cs : List Char) : Except UrlFault (Option Host) :=
  match kind with
  | .other => Host.ofPlainChars cs
  | _ => if cs.isEmpty then .error .emptyHost else (Host.ofChars cs).map some

/-- Reads what stands between the slashes behind the scheme and the path. -/
def readAuthority (scheme : String) (kind : SchemeKind) (cs : List Char) :
    Except UrlFault Url := do
  let authority := cs.takeWhile fun c => !endsAuthority kind c
  let rest := cs.dropWhile fun c => !endsAuthority kind c
  let (user, place) := cutUser authority
  if user = some [] ∧ place.isEmpty ∧ !rest.isEmpty then throw .emptyHost
  let (hostText, portText) := cutPort false place
  let host ← readHost kind hostText
  if host.isNone ∧ portText.isSome then throw .emptyHost
  let port ← readPort ((portText.getD []).takeWhile (· != '\\'))
  if host.isNone ∧ user.any (fun cs => cs ≠ [] ∧ cs ≠ [':']) then throw .emptyHost
  return ⟨scheme, host, port, rest, user.getD []⟩

/-- Whether a text is the letter of a drive. -/
def isDrive : List Char → Bool
  | [c, mark] => c.isAlpha && (mark == ':' || mark == '|')
  | _ => false

/-- Reads what follows the scheme of local files. -/
def readFile (scheme : String) (cs : List Char) : Except UrlFault Url :=
  match cs with
  | a :: b :: more =>
    let hostText := more.takeWhile fun c => !endsAuthority .file c
    let rest := more.dropWhile fun c => !endsAuthority .file c
    if !(isSlash a && isSlash b) || isDrive hostText then .ok ⟨scheme, none, none, cs, []⟩
    else if hostText.isEmpty then .ok ⟨scheme, none, none, rest, []⟩
    else (Host.ofChars hostText).map fun host => ⟨scheme, some host, none, rest, []⟩
  | _ => .ok ⟨scheme, none, none, cs, []⟩

/-- Reads a URL. -/
def parse (s : String) : Except UrlFault Url :=
  match scheme? (clean s.toList) with
  | none => .error .noScheme
  | some (scheme, rest) =>
    match schemeKind scheme with
    | .network => readAuthority scheme .network (rest.dropWhile isSlash)
    | .file => readFile scheme rest
    | .other =>
      match rest with
      | '/' :: '/' :: more => readAuthority scheme .other more
      | _ => .ok ⟨scheme, none, none, rest, []⟩

/-! ## Path and query -/

/-- Whether a character is percent-encoded wherever it stands. -/
def isEscaped (c : Char) : Bool := c.toNat ≤ 32 || 126 < c.toNat || "\"#<>".toList.contains c

/-- Whether a character is percent-encoded in a path. -/
def isEscapedInPath (c : Char) : Bool := isEscaped c || "?^`\x7b\x7d".toList.contains c

/-- Whether a character is percent-encoded in a query. -/
def isEscapedInQuery (c : Char) : Bool := isEscaped c || c == '\''

/-- A text with some of its characters percent-encoded. -/
def escape (escaped : Char → Bool) (cs : List Char) : List Char :=
  cs.flatMap fun c =>
    if escaped c then (String.utf8EncodeChar c).flatMap percentOctet else [c]

/-- A segment that stays where it is. -/
def isSingleDot (segment : List Char) : Bool :=
  [".", "%2e"].contains (String.ofList (segment.map Char.toLower))

/-- A segment that leads to the one before. -/
def isDoubleDot (segment : List Char) : Bool :=
  ["..", ".%2e", "%2e.", "%2e%2e"].contains (String.ofList (segment.map Char.toLower))

/-- The segments of a path behind those in `done`, with the dot segments resolved. -/
def resolve (done : List (List Char)) : List (List Char) → List (List Char)
  | [] => done
  | segment :: rest =>
    let closing : List (List Char) := if rest.isEmpty then [[]] else []
    if isDoubleDot segment then resolve (done.dropLast ++ closing) rest
    else if isSingleDot segment then resolve (done ++ closing) rest
    else resolve (done ++ [escape isEscapedInPath segment]) rest

/-- The path of a URL with a host. -/
def path (u : Url) : List Char :=
  let text := u.rest.takeWhile fun c => !(c == '?' || c == '#')
  '/' :: Text.glue '/' (resolve [] (Text.pieces isSlash (text.drop 1)))

/-- The query of a URL. -/
def query? (u : Url) : Option (List Char) :=
  match (u.rest.takeWhile (· != '#')).dropWhile (· != '?') with
  | [] => none
  | _ :: text => some (escape isEscapedInQuery text)

end Url

end BalancerClient
