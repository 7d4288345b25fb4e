import PodReach.Net.Address
import PodReach.Text.Percent

/-!
# Addresses of resources

An address has a scheme, a host, a path and a query, any of which may be empty; a fragment after
it does not count. Controls and blanks in front of an address are skipped, and so are tabs and
line breaks in it.
-/

namespace PodReach.Http

open PodReach.Text

/-- The address of a resource. The query is a list of pairs. -/
structure Url where
  scheme : String
  host : String
  path : String
  query : List (String × String)
  deriving DecidableEq, Repr, Inhabited

namespace Url

/-- The characters of an address that count. -/
def significant (address : String) : List Char :=
  (address.toList.dropWhile (·.toNat ≤ 0x20)).filter fun c => c != '\t' && c != '\r' && c != '\n'

/-- The characters of a scheme. -/
def isSchemeChar (c : Char) : Bool :=
  c.isAlphanum || c == '+' || c == '-' || c == '.'

/-- The scheme of an address, in lower case, and what follows it; it starts with a letter and ends
at a colon. -/
def cutScheme (cs : List Char) : String × List Char :=
  match cutAtFirst ':' cs with
  | some (c :: scheme, rest) =>
    if c.isAlpha && scheme.all isSchemeChar then
      (String.ofList ((c :: scheme).map Char.toLower), rest)
    else ("", cs)
  | _ => ("", cs)

/-- The host of an address, after two slashes, and what follows it. -/
def cutHost : List Char → List Char × List Char
  | '/' :: '/' :: rest =>
    let isHost (c : Char) : Bool := c != '/' && c != '?' && c != '#'
    (rest.takeWhile isHost, rest.dropWhile isHost)
  | rest => ([], rest)

/-- Whether a host of a later version stands between brackets: a `v` with a hexadecimal number, a
point and something else. -/
def isFutureHost (cs : List Char) : Bool :=
  let isHex (c : Char) : Bool := ((letterDigit? c).filter (· < 16)).isSome
  match cs with
  | 'v' :: rest =>
    !(rest.takeWhile isHex).isEmpty && (rest.dropWhile isHex).head? == some '.'
      && 2 ≤ (rest.dropWhile isHex).length
  | _ => false

/-- Whether the brackets of a host are in order: there are none, or they hold an IPv6 address. -/
def bracketsFit (host : List Char) : Bool :=
  if host.contains '[' && host.contains ']' then
    let inside := ((host.dropWhile (· != '[')).drop 1).takeWhile (· != ']')
    if inside.head? == some 'v' then isFutureHost inside
    else (Net.readV6? inside).isSome && (Net.readV4? inside).isNone
  else !host.contains '[' && !host.contains ']'

/-- The pairs of a query; a key without a value has an empty one. -/
def readQuery (cs : List Char) : List (String × String) :=
  ((splitOnChar '&' cs).filter (!·.isEmpty)).map fun pair =>
    match cutAtFirst '=' pair with
    | some (key, value) => (readQueryText key, readQueryText value)
    | none => (readQueryText pair, "")

/-- The parts of an address; the brackets of its host have to be in order. -/
def read? (address : String) : Option Url :=
  let (scheme, rest) := cutScheme (significant address)
  let (host, rest) := cutHost rest
  if !bracketsFit host then none
  else
    let rest := rest.takeWhile (· != '#')
    some ⟨scheme, String.ofList host, String.ofList (rest.takeWhile (· != '?')),
      readQuery ((rest.dropWhile (· != '?')).drop 1)⟩

/-- The schemes after which a host is expected, also an empty one. -/
def schemesWithHost : List String :=
  ["ftp", "http", "gopher", "nntp", "telnet", "imap", "wais", "file", "mms", "https", "shttp",
    "snews", "prospero", "rtsp", "rtsps", "rtspu", "rsync", "svn", "svn+ssh", "sftp", "nfs", "git",
    "git+ssh", "ws", "wss"]

/-- The schemes of connections that stay open, for those of single requests. -/
def openScheme (scheme : String) : String :=
  if scheme == "http" then "ws" else if scheme == "https" then "wss" else scheme

/-- The address for a connection that stays open, with a query of its own. After a scheme with a
host a path starts with a slash. -/
def opened (url : Url) (query : List (String × String)) : Url :=
  let scheme := openScheme url.scheme
  let path :=
    if schemesWithHost.contains scheme && !url.path.isEmpty && !url.path.startsWith "/" then
      "/" ++ url.path
    else url.path
  ⟨scheme, url.host, path, query⟩

example : read? " HTTPS://[::1]:8443/a?x=1&y#f" =
    some ⟨"https", "[::1]:8443", "/a", [("x", "1"), ("y", "")]⟩ := by
  decide +kernel
example : read? "localhost:8001/x" = some ⟨"localhost", "", "8001/x", []⟩ := by decide +kernel

end Url
end PodReach.Http
