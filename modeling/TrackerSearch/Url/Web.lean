import TrackerSearch.Url.Domain
import TrackerSearch.Url.Address
import TrackerSearch.Text.Percent
import TrackerSearch.Text.Words

/-!
Reading the scheme, host and port of a web address: one with scheme `http`, `https`, `ftp`,
`ws` or `wss`, the schemes whose addresses always name a host.

The text is read as browsers read it. Controls and spaces at either end are dropped, and so
are tabs and line breaks anywhere. The scheme is a letter followed by letters, digits, `+`,
`-` or `.`, up to a colon, and case does not matter. Any slashes or backslashes may follow.
User information ends at the last `@` before the path. The host runs to a colon outside
brackets, a slash, a backslash, `?` or `#`; it is an IPv6 address in brackets, an IPv4
address when its last label is a number, or else a domain, percent-decoded and brought to
ASCII. A port is a decimal number below `65536`, and only the path may follow it. What
follows the host and port cannot make the address fail, so it is not read.
-/

namespace TrackerSearch.Url

/-- The host of an address. -/
inductive Host where
  | domain (name : String)
  | ipv4 (address : Nat)
  | ipv6 (groups : List Nat)
  deriving DecidableEq, Repr

/-- The scheme, host and port of a web address. -/
structure WebAddress where
  scheme : String
  host : Host
  port : Option Nat
  deriving Repr

/-- The schemes of web addresses. -/
def webSchemes : List String := ["http", "https", "ftp", "ws", "wss"]

/-- Drops controls and spaces from both ends, and tabs and line breaks everywhere. -/
def cleanInput (s : String) : List Char :=
  let cs := (s.toList.dropWhile (·.toNat ≤ 0x20)).reverse.dropWhile (·.toNat ≤ 0x20)
  cs.reverse.filter fun c => c != '\t' && c != '\n' && c != '\r'

/-- The scheme, lowercased, and the text after its colon. -/
def readScheme (cs : List Char) : Option (String × List Char) :=
  match cs with
  | c :: _ =>
    if !c.isAlpha then none
    else
      let name := cs.takeWhile fun c => c.isAlphanum || c == '+' || c == '-' || c == '.'
      match cs.drop name.length with
      | ':' :: rest => some (String.ofList (name.map Char.toLower), rest)
      | _ => none
  | [] => none

/-- Whether a character ends the authority of a web address. -/
def endsAuthority (c : Char) : Bool :=
  c == '/' || c == '?' || c == '#' || c == '\\'

/-- The index of the last `@` of the authority. -/
def lastAt (cs : List Char) : Option Nat :=
  ((cs.takeWhile (!endsAuthority ·)).zipIdx.filter (·.1 == '@')).getLast?.map (·.2)

/-- The text after the user information; `none` when an `@` leaves no host. -/
def afterUserinfo (cs : List Char) : Option (List Char) :=
  match lastAt cs with
  | none => some cs
  | some 0 =>
    match cs.drop 1 with
    | c :: rest => if endsAuthority c then none else some (c :: rest)
    | [] => none
  | some k => some (cs.drop (k + 1))

/-- The text of the host and what follows it. -/
def splitHost : Bool → List Char → List Char × List Char
  | _, [] => ([], [])
  | inside, c :: rest =>
    if (c == ':' && !inside) || endsAuthority c then ([], c :: rest)
    else
      let inside := if c == '[' then true else if c == ']' then false else inside
      let (h, r) := splitHost inside rest
      (c :: h, r)

/-- Reads the text of a host. -/
def Host.parse (text : String) : Option Host :=
  if text.startsWith "[" then
    if !text.endsWith "]" then none
    else (Address.parseIpv6 (String.ofList ((text.toList.drop 1).dropLast))).map Host.ipv6
  else do
    let ascii ← Domain.toAscii (Percent.decodeBytes (Utf8.encode text))
    if ascii.isEmpty then none
    else if Address.endsInNumber ascii then (Address.parseIpv4 ascii).map Host.ipv4
    else some (.domain ascii)

/-- Reads a port after its colon: digits up to the path, query or fragment. -/
def readPort (cs : List Char) (acc : Nat) (seen : Bool) : Option (Option Nat) :=
  match cs with
  | [] => some (if seen then some acc else none)
  | c :: rest =>
    if c.isDigit then
      let acc := acc * 10 + (c.toNat - 48)
      if acc > 65535 then none else readPort rest acc true
    else if endsAuthority c then some (if seen then some acc else none)
    else none

/-- The scheme, host and port of a web address; `none` for text that is not one. -/
def WebAddress.parse? (input : String) : Option WebAddress := do
  let (scheme, rest) ← readScheme (cleanInput input)
  if !webSchemes.contains scheme then none
  let rest := rest.dropWhile fun c => c == '/' || c == '\\'
  let rest ← afterUserinfo rest
  let (hostText, rest) := splitHost false rest
  if hostText.isEmpty then none
  let host ← Host.parse (String.ofList hostText)
  let port ← match rest with
    | ':' :: portText => readPort portText 0 false
    | _ => some none
  return { scheme := scheme, host := host, port := port }

/-- Whether a domain has the shape of a web host: `localhost`, or dotted without an empty
label before the last. -/
def isWebDomain (name : String) : Bool :=
  name == "localhost" ||
    (name.contains '.' && !name.startsWith "." && !Text.containsText name.toList ['.', '.'])

end TrackerSearch.Url
