import TrackerSearch.Unicode.CodeSet

/-!
The White_Space property: the characters that separate words.
-/

namespace TrackerSearch.Unicode

/-- Characters with the White_Space property, as ranges of code points. -/
def whiteSpace : CodeSet :=
  ⟨#[(0x9, 0xd), (0x20, 0x20), (0x85, 0x85), (0xa0, 0xa0), (0x1680, 0x1680), (0x2000, 0x200a),
    (0x2028, 0x2029), (0x202f, 0x202f), (0x205f, 0x205f), (0x3000, 0x3000)]⟩

end TrackerSearch.Unicode
