import TrackerSearch.Pattern.Program
import TrackerSearch.Pattern.Footprint

/-!
Compiled patterns: the parser, the meaning of the parsed pattern and its program, put
together. A pattern is refused with the error of the first stage that fails, rendered
against the pattern's text, or when its automata would pass the size limit.
-/

namespace TrackerSearch.Pattern

/-- A pattern compiled for searching. -/
structure Regex where
  source : String
  program : Program

/-- Why a pattern cannot be compiled. -/
inductive CompileError where
  /-- The pattern is malformed, or means something refused. -/
  | invalid (e : PatternError)
  /-- The compiled automata would take more memory than the limit, in bytes. -/
  | tooLarge (limit : Nat)

/-- The message of a compile error for a pattern. -/
def CompileError.render (pattern : String) : CompileError → String
  | .invalid e => e.render pattern
  | .tooLarge limit => "Compiled regex exceeds size limit of " ++ toString limit ++ " bytes."

/-- Parses, interprets and compiles a pattern. -/
def Regex.compile (source : String) : Except CompileError Regex := do
  let ast ← (parse source).mapError .invalid
  let hir ← ast.resolve.mapError .invalid
  if !hir.fitsSizeLimit then throw (.tooLarge sizeLimit)
  return { source := source, program := hir.compile }

/-- The names of the capture groups, group `0` first; `none` for an unnamed group. -/
def Regex.groupNames (r : Regex) : List (Option String) :=
  r.program.groups.toList

/-- The number of capture groups, group `0` included. -/
def Regex.groupCount (r : Regex) : Nat :=
  r.program.groups.size

/-- The capture groups of the leftmost-first match in `text`: group `0` is the whole match,
and a group that took no part is `none`. -/
def Regex.captures (r : Regex) (text : String) : Option (List (Option String)) :=
  let chars := text.toList.toArray
  (r.program.captures chars).map fun groups =>
    groups.toList.map fun
      | some (a, b) => some (String.ofList ((chars.extract a b).toList))
      | none => none

/-- The text of the group named `name` in a list of captures. -/
def Regex.named (r : Regex) (caps : List (Option String)) (name : String) : Option String :=
  match (r.groupNames.zip caps).find? (fun (n, _) => n == some name) with
  | some (_, c) => c
  | none => none

end TrackerSearch.Pattern
