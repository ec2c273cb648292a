/-!
Lexeme text for the full-text index. A lexeme followed by `:*` matches every indexed lexeme
it is a prefix of. The characters `:`, `(` and `)` have a meaning in a query expression, so a
lexeme that holds them has each escaped with a backslash. A URL is indexed without its
`http://` or `https://`.
-/

namespace TrackerSearch.Lexeme

/-- The suffix that makes a lexeme match as a prefix. -/
def prefixMatch : String := ":*"

/-- Removes one leading `http://`, or else one leading `https://`; case matters. -/
def trimProtocol (url : String) : String :=
  if url.startsWith "http://" then String.ofList (url.toList.drop 7)
  else if url.startsWith "https://" then String.ofList (url.toList.drop 8)
  else url

/-- Whether a character has a meaning in a query expression that a lexeme must escape. -/
def isReserved (c : Char) : Bool :=
  c == ':' || c == '(' || c == ')'

/-- Puts a backslash before each reserved character. -/
def escape (text : String) : String :=
  String.ofList (text.toList.flatMap fun c => if isReserved c then ['\\', c] else [c])

/-- The lexeme text of a URL that no known pattern matches. -/
def sanitizeUrl (url : String) : String :=
  escape (trimProtocol url)

end TrackerSearch.Lexeme
