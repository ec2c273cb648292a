import TrackerSearch.Pattern.Regex
import TrackerSearch.Search.Lexeme

/-!
Known URLs: named patterns whose capture groups split a URL made by the tracker into parts
worth searching for. Patterns are written without protocol and without trailing slashes,
since both are stripped from search tokens before matching.

A registry keeps its patterns in the order they were first registered; registering a name
again replaces its pattern in place. The best match for a URL is the pattern with the most
capture groups that matched something non-empty, the earliest registered on a tie.
-/

namespace TrackerSearch

open Pattern

/-- A pattern that failed to compile, with the name it was to be registered under. -/
structure InvalidPattern where
  name : String
  source : String
  error : CompileError

/-- The message of a refused pattern. -/
def InvalidPattern.message (e : InvalidPattern) : String :=
  "Invalid pattern for known URL '" ++ e.name ++ "': " ++ e.error.render e.source

/-- A named, compiled known URL pattern. -/
structure KnownUrl where
  name : String
  regex : Regex

namespace KnownUrl

/-- Compiles a pattern under a name. -/
def make (name source : String) : Except InvalidPattern KnownUrl :=
  match Regex.compile source with
  | .ok r => .ok { name := name, regex := r }
  | .error e => .error { name := name, source := source, error := e }

/-- The pattern as written. -/
def source (k : KnownUrl) : String := k.regex.source

/-- One name per capture group, the whole match first; an unnamed group has the empty name. -/
def groupNames (k : KnownUrl) : List String :=
  k.regex.groupNames.map (·.getD "")

/-- The number of capture groups after the whole match that matched something non-empty,
or `none` when the pattern does not match. -/
def relevance (k : KnownUrl) (url : String) : Option Nat :=
  (k.regex.captures url).map fun caps =>
    (caps.drop 1).countP fun
      | some s => !s.isEmpty
      | none => false

/-- The query fragment of a URL: its groups after the whole match, concatenated, with `:`
escaped, as a prefix lexeme; or the whole match when there are no groups. When the group
named `id` matched something, the bare id is offered as an alternative. -/
def decompose (k : KnownUrl) (url : String) : Option String := do
  let caps ← k.regex.captures url
  match caps with
  | [whole] => return whole.getD "" ++ Lexeme.prefixMatch
  | _ =>
    let composite := String.join ((caps.drop 1).map (·.getD ""))
    let escaped := String.ofList (composite.toList.flatMap fun c => if c == ':' then ['\\', c] else [c])
    let fragment := escaped ++ Lexeme.prefixMatch
    match k.regex.named caps "id" with
    | some id =>
      if id.isEmpty then return fragment
      else return "(" ++ id ++ Lexeme.prefixMatch ++ " | " ++ fragment ++ ")"
    | none => return fragment

end KnownUrl

/-- The known URL that fits a token best, with the text of its groups after the whole match. -/
structure UrlMatch where
  name : String
  groups : List String

/-- Known URL patterns in registration order. -/
structure Registry where
  entries : List KnownUrl := []

namespace Registry

/-- The entries with the first one named like `k` replaced by `k`; `none` when no entry has
its name. -/
def replaceFirst (k : KnownUrl) : List KnownUrl → Option (List KnownUrl)
  | [] => none
  | e :: rest => if e.name == k.name then some (k :: rest) else (replaceFirst k rest).map (e :: ·)

/-- Adds a pattern, or replaces the first one of the same name where it stands. -/
def insert (r : Registry) (k : KnownUrl) : Registry :=
  match replaceFirst k r.entries with
  | some entries => { entries := entries }
  | none => { entries := r.entries ++ [k] }

/-- Compiles and adds a pattern; a pattern that does not compile leaves the registry as it was. -/
def register (r : Registry) (name source : String) : Except InvalidPattern Registry := do
  return r.insert (← KnownUrl.make name source)

/-- The name of the work item detail page in list view. -/
def listDetails : String := "work-item-list-details"

/-- The name of the work item detail page in board view. -/
def boardDetails : String := "work-item-board-details"

/-- The built-in patterns, for the two views of a work item's detail page. -/
def builtIn : List (String × String) :=
  [(listDetails, "(?P<domain>demo.almighty.io)(?P<path>/work-item/list/detail/)(?P<id>\\d*)"),
   (boardDetails, "(?P<domain>demo.almighty.io)(?P<path>/work-item/board/detail/)(?P<id>\\d*)")]

/-- Registers patterns in order, stopping at the first that does not compile. -/
def registerAll (r : Registry) : List (String × String) → Except InvalidPattern Registry
  | [] => .ok r
  | (name, source) :: rest => do registerAll (← r.register name source) rest

/-- The registry holding the given patterns, registered in order; empty when one of them does
not compile. -/
def ofPatterns (patterns : List (String × String)) : Registry :=
  match ({} : Registry).registerAll patterns with
  | .ok r => r
  | .error _ => {}

/-- A registry holding the built-in patterns. -/
def withDefaults : Registry := ofPatterns builtIn

/-- The pattern registered under a name. -/
def get? (r : Registry) (name : String) : Option KnownUrl :=
  r.entries.find? (·.name == name)

/-- The number of patterns. -/
def size (r : Registry) : Nat := r.entries.length

/-- Names and patterns, sorted by name. -/
def allPatterns (r : Registry) : List (String × String) :=
  (r.entries.map fun k => (k.name, k.source)).mergeSort fun a b => decide (a.1 ≤ b.1)

/-- The pattern with the highest relevance for `url`; the earliest registered wins a tie. -/
def bestMatch (r : Registry) (url : String) : Option UrlMatch := do
  let best := r.entries.foldl (fun (best : Option (KnownUrl × Nat)) k =>
    match k.relevance url with
    | none => best
    | some n =>
      match best with
      | some (_, m) => if n > m then some (k, n) else best
      | none => some (k, n)) none
  let (k, _) ← best
  let caps ← k.regex.captures url
  return { name := k.name, groups := (caps.drop 1).map (·.getD "") }

/-- The query fragment of a URL by the pattern registered under `name`. -/
def decompose (r : Registry) (name url : String) : Option String :=
  (r.get? name).bind (·.decompose url)

/-- The query fragment of a protocol-less, lowercased URL token: by its best known pattern,
or else the URL itself, sanitized, as a prefix lexeme. -/
def urlFragment (r : Registry) (url : String) : String :=
  match (r.bestMatch url).bind (fun m => r.decompose m.name url) with
  | some f => f
  | none => Lexeme.sanitizeUrl url ++ Lexeme.prefixMatch

end Registry

end TrackerSearch
