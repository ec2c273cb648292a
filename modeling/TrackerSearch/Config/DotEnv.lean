import TrackerSearch.Unicode.WhiteSpace
import TrackerSearch.Unicode.Alphanumeric

/-!
Environment files: lines of `NAME=value`, read in order into variables that are not set yet.

A line may start with `export`. A name starts with an ASCII letter or `_` and goes on with
ASCII letters, digits, `_` and `.`. An unquoted value ends at a blank, after which only a
comment may follow; single quotes keep their content as it is; in double quotes and unquoted,
a backslash escapes `\`, `'`, `"`, `$` or a space, or writes a line feed as `n`. Outside single
quotes `$NAME` and `${NAME}` are replaced by the variable of that name, or by the value given
to it earlier in the file, or by nothing; a name after `$` is a run of letters and digits.
Quotes may span lines. Blank lines and lines starting with `#` are skipped. A byte order
mark at the very start of the file is not part of it.

Reading stops at the first malformed line, keeping the variables read before it.
-/

namespace TrackerSearch.Config.DotEnv

/-- Whether a character is white space. -/
def isSpace (c : Char) : Bool := Unicode.whiteSpace.contains c

/-- Where the reading of a physical line leaves a logical line. -/
inductive LineState where
  | complete
  | escape
  | strongOpen
  | strongOpenEscape
  | weakOpen
  | weakOpenEscape
  | comment
  | whiteSpace
  deriving DecidableEq, Repr

/-- The state after a character. -/
def LineState.step : LineState → Char → LineState
  | .whiteSpace, c =>
    if c == '#' then .comment
    else if c == '\\' then .escape
    else if c == '"' then .weakOpen
    else if c == '\'' then .strongOpen
    else .complete
  | .escape, _ => .complete
  | .complete, c =>
    if isSpace c && c != '\n' && c != '\r' then .whiteSpace
    else if c == '\\' then .escape
    else if c == '"' then .weakOpen
    else if c == '\'' then .strongOpen
    else .complete
  | .weakOpen, c => if c == '\\' then .weakOpenEscape else if c == '"' then .complete else .weakOpen
  | .weakOpenEscape, _ => .weakOpen
  | .strongOpen, c => if c == '\\' then .strongOpenEscape else if c == '\'' then .complete else .strongOpen
  | .strongOpenEscape, _ => .strongOpen
  | .comment, _ => .comment

/-- Runs the states over a physical line; a comment cuts the line at its `#`. -/
def scanLine : LineState → List Char → List Char → LineState × List Char
  | st, [], acc => (st, acc.reverse)
  | st, c :: rest, acc =>
    let next := st.step c
    if next == .comment then (.comment, acc.reverse) else scanLine next rest (c :: acc)

/-- Splits a text into physical lines, each with its line feed. -/
def physicalLines (cs : List Char) : List (List Char) :=
  let rec go : Nat → List Char → List Char → List (List Char)
    | 0, _, _ => []
    | _ + 1, [], [] => []
    | _ + 1, [], acc => [acc.reverse]
    | n + 1, '\n' :: rest, acc => ('\n' :: acc).reverse :: go n rest []
    | n + 1, c :: rest, acc => go n rest (c :: acc)
  go (cs.length + 1) cs []

/-- Drops a final line feed and then a carriage return. -/
def dropLineEnd (cs : List Char) : List Char :=
  let cs := if cs.getLast? == some '\n' then cs.dropLast else cs
  if cs.getLast? == some '\r' then cs.dropLast else cs

/-- Gathers physical lines into one logical line while a quote is open: the line, or `none`
when it is left open at the end, and the lines after it. A line whose text starts with `#`
is an empty line. -/
def gather : LineState → List Char → List (List Char) → Option (List Char) × List (List Char)
  | _, _, [] => (none, [])
  | st, buf, l :: ls =>
    let buf' := buf ++ l
    if (buf'.dropWhile isSpace).head? == some '#' then (some [], ls)
    else
      let (st', kept) := scanLine st l []
      if st' == .complete then (some (dropLineEnd buf'), ls)
      else if st' == .comment then (some (buf ++ kept), ls)
      else gather st' buf' ls

/-- The logical lines of a text; `none` marks a line left open at the end. -/
def logicalLines : Nat → List (List Char) → List (Option (List Char))
  | 0, _ => []
  | _ + 1, [] => []
  | n + 1, lines =>
    let (line, rest) := gather .complete [] lines
    line :: logicalLines n rest

/-- How to find a value for a `$` name: the variables set so far, then the file's earlier
values. -/
structure Scope where
  env : List (String × String)
  seen : List (String × Option String)

/-- The text a `$` name stands for. -/
def Scope.lookup (s : Scope) (name : String) : String :=
  match s.env.lookup name with
  | some v => if name.isEmpty then "" else v
  | none => ((s.seen.lookup name).getD none).getD ""

/-- The state of reading a value. -/
structure ValueState where
  out : String := ""
  strong : Bool := false
  weak : Bool := false
  escaped : Bool := false
  expectingEnd : Bool := false
  /-- `0`: no substitution; `1`: reading a `$` name; `2`: reading a `${…}` name. -/
  substitution : Nat := 0
  name : String := ""

/-- Reads a value; `none` when it is malformed. -/
def readValue (scope : Scope) : List Char → ValueState → Option String
  | [], st =>
    if st.substitution == 2 || st.strong || st.weak then none
    else some (st.out ++ scope.lookup st.name)
  | c :: rest, st =>
    if st.expectingEnd then
      if c == ' ' || c == '\t' then readValue scope rest st
      else if c == '#' then some (st.out ++ scope.lookup st.name)
      else none
    else if st.escaped then
      if c == '\\' || c == '\'' || c == '"' || c == '$' || c == ' ' then
        readValue scope rest { st with out := st.out.push c, escaped := false }
      else if c == 'n' then readValue scope rest { st with out := st.out.push '\n', escaped := false }
      else none
    else if st.strong then
      if c == '\'' then readValue scope rest { st with strong := false }
      else readValue scope rest { st with out := st.out.push c }
    else if st.substitution != 0 then
      if Unicode.alphabetic.contains c || Unicode.numeric.contains c then
        readValue scope rest { st with name := st.name.push c }
      else if st.substitution == 1 then
        if c == '\x7b' && st.name.isEmpty then readValue scope rest { st with substitution := 2 }
        else
          let out := st.out ++ scope.lookup st.name
          if c == '$' then readValue scope rest { st with out := out, name := "", substitution := 1 }
          else readValue scope rest { st with out := out.push c, name := "", substitution := 0 }
      else if c == '\x7d' then
        readValue scope rest { st with out := st.out ++ scope.lookup st.name, name := "", substitution := 0 }
      else readValue scope rest { st with name := st.name.push c }
    else if c == '$' then readValue scope rest { st with substitution := 1 }
    else if st.weak then
      if c == '"' then readValue scope rest { st with weak := false }
      else if c == '\\' then readValue scope rest { st with escaped := true }
      else readValue scope rest { st with out := st.out.push c }
    else if c == '\'' then readValue scope rest { st with strong := true }
    else if c == '"' then readValue scope rest { st with weak := true }
    else if c == '\\' then readValue scope rest { st with escaped := true }
    else if c == ' ' || c == '\t' then readValue scope rest { st with expectingEnd := true }
    else readValue scope rest { st with out := st.out.push c }

/-- Reads a name at the start of a line. -/
def readName (cs : List Char) : Option (String × List Char) :=
  match cs with
  | c :: _ =>
    if (c.isAlpha && c.toNat < 128) || c == '_' then
      let ok (c : Char) : Bool := (c.isAlphanum && c.toNat < 128) || c == '_' || c == '.'
      some (String.ofList (cs.takeWhile ok), cs.dropWhile ok)
    else none
  | [] => none

/-- Reads a `=` after optional white space. -/
def readEquals (cs : List Char) : Option (List Char) :=
  match cs.dropWhile isSpace with
  | '=' :: rest => some (rest.dropWhile isSpace)
  | _ => none

/-- Reads a logical line: nothing for a blank or comment line, a name and value, or `none`
when the line is malformed. -/
def readLine (scope : Scope) (line : List Char) : Option (Option (String × String)) :=
  let cs := ((line.reverse.dropWhile isSpace).reverse).dropWhile isSpace
  if cs.isEmpty || cs.head? == some '#' then some none
  else do
    let (name, rest) ← readName cs
    let (name, rest) ← if name == "export" then
        match readEquals rest with
        | some r => some (name, r)
        | none => do
          let (n2, r2) ← readName (rest.dropWhile isSpace)
          let r3 ← readEquals r2
          some (n2, r3)
      else do
        let r ← readEquals rest
        some (name, r)
    if rest.isEmpty || rest.head? == some '#' then some (some (name, ""))
    else
      let v ← readValue scope rest {}
      some (some (name, v))

/-- Loads a file's variables into an environment, in order, leaving set variables as they
are; stops at the first malformed line. -/
def load (text : String) (env : List (String × String)) : List (String × String) :=
  let rec go : List (Option (List Char)) → List (String × String) → List (String × Option String) →
      List (String × String)
    | [], env, _ => env
    | none :: _, env, _ => env
    | some line :: rest, env, seen =>
      match readLine ⟨env, seen⟩ line with
      | none => env
      | some none => go rest env seen
      | some (some (k, v)) =>
        let seen := (k, some v) :: seen
        let env := if (env.lookup k).isSome then env else env ++ [(k, v)]
        go rest env seen
  let cs := match text.toList with
    | '\uFEFF' :: rest => rest
    | cs => cs
  let lines := physicalLines cs
  go (logicalLines (lines.length + 1) lines) env []

end TrackerSearch.Config.DotEnv
