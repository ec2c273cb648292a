import TrackerSearch.Unicode.WhiteSpace

/-!
Splitting text into words at white space (the characters with the White_Space property), and
two small searches on character lists.
-/

namespace TrackerSearch.Text

/-- The runs of characters between white space: `word` holds the current run reversed and
`acc` the finished runs reversed. -/
def wordsFrom : List Char → List Char → List String → List String
  | [], word, acc => (if word.isEmpty then acc else String.ofList word.reverse :: acc).reverse
  | c :: rest, word, acc =>
    if Unicode.whiteSpace.contains c then
      wordsFrom rest [] (if word.isEmpty then acc else String.ofList word.reverse :: acc)
    else wordsFrom rest (c :: word) acc

/-- The words of a text, split at white space. -/
def words (s : String) : List String :=
  wordsFrom s.toList [] []

/-- The runs of characters between those that `sep` picks, empty runs dropped. -/
def splitWhere (sep : Char → Bool) (s : String) : List String :=
  ((s.toList.splitBy fun a b => !sep a && !sep b).filter fun run =>
    !run.isEmpty && !run.any sep).map String.ofList

/-- Removes a character from both ends of a text, as often as it stands there. -/
def trimChar (c : Char) (s : String) : String :=
  String.ofList (((s.toList.dropWhile (· == c)).reverse.dropWhile (· == c)).reverse)

/-- Whether `pattern` occurs in `text`. -/
def containsText (text pattern : List Char) : Bool :=
  match text with
  | [] => pattern.isEmpty
  | c :: rest => pattern.isPrefixOf (c :: rest) || containsText rest pattern

end TrackerSearch.Text
