import TrackerSearch.Search.KnownUrl
import TrackerSearch.Search.Query
import TrackerSearch.Url.Web
import TrackerSearch.Unicode.Case
import TrackerSearch.Text.Words

/-!
Splitting a search string into tokens and classifying each.

The string loses its surrounding slashes, then its surrounding double quotes, and is split
at white space. Each token is percent-decoded when it can be, and kept as written when not.
A token `id:<value>` filters on identifiers and `type:<uuid>` on a type; a token that reads as
a web address becomes the fragment of its known pattern, or of itself; any other token
becomes a lowercased prefix lexeme.
-/

namespace TrackerSearch.Token

/-- The prefix of identifier filters. -/
def idPrefix : String := "id:"

/-- The prefix of type filters. -/
def typePrefix : String := "type:"

/-- The suffix of identifier lexemes. -/
def idSuffix : String := ":*A"

/-- The length in bytes from which a token is too long to be an address. -/
def maxUrlLength : Nat := 2083

/-- The text the address reader is given for a token: the token itself when it holds `://`,
else the token after `http://`. -/
def urlCandidate (token : String) : String :=
  if Text.containsText token.toList [':', '/', '/'] then token else "http://" ++ token

/-- Whether a token is a web address, with or without its scheme: a host that is an IP
address, `localhost`, or a dotted domain name. -/
def isUrl (token : String) : Bool :=
  if token.isEmpty || Utf8.byteLength token ≥ maxUrlLength || token.startsWith "."
      || token.any Unicode.whiteSpace.contains then false
  else
    match Url.WebAddress.parse? (urlCandidate token) with
    | some a =>
      match a.host with
      | .domain name => Url.isWebDomain name
      | _ => true
    | none => false

/-- The text after a prefix. -/
def afterPrefix (s pre : String) : String :=
  String.ofList (s.toList.drop pre.length)

/-- Classifies one decoded token. -/
def classify (registry : Registry) (part : String) : Except SearchError SearchToken :=
  if part.startsWith idPrefix then .ok (.idFilter (afterPrefix part idPrefix ++ idSuffix))
  else if part.startsWith typePrefix then
    let rest := afterPrefix part typePrefix
    if rest.isEmpty then .error (.badParameter "type" part)
    else match Uuid.parse? rest with
      | some u => .ok (.typeFilter u)
      | none => .error (.badParameter "type" rest)
  else
    let lowered := Unicode.lowercase part
    if isUrl part then .ok (.wordFragment (registry.urlFragment (Lexeme.trimProtocol lowered)))
    else .ok (.wordFragment (Lexeme.sanitizeUrl lowered ++ Lexeme.prefixMatch))

/-- Splits a search string into its classified parts; the first bad token fails it. -/
def tokenize (registry : Registry) (raw : String) : Except SearchError ParsedQuery :=
  (Text.words (Text.trimChar '"' (Text.trimChar '/' raw))).foldlM (fun q part => do
    let part := match Percent.unescape part with
      | .ok decoded => decoded
      | .error _ => part
    return q.push (← classify registry part)) {}

end TrackerSearch.Token
