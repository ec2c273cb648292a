import TrackerSearch.Url.Punycode
import TrackerSearch.Unicode.Idna
import TrackerSearch.Unicode.Normalization
import TrackerSearch.Text.Utf8

/-!
Domain names to ASCII, as web addresses need them. Each character is mapped by the table of
internationalized domain names: kept, replaced, dropped, or refused. The mapped name is
brought to its canonical composed form, and may then not hold an ASCII character that has a
meaning in an address (controls, space and `% # / : < > ? @ [ \ ] ^ |`). Labels written in
Punycode (`xn--` followed by the encoding) are decoded and must decode to a label in
composed form that needs the encoding and holds only valid characters. Every label is then
checked: it may not begin with a mark, a zero-width joiner or non-joiner must stand where
joining allows it, and in a domain with right-to-left text each label must keep its
direction. Labels outside ASCII are written in Punycode.

Hyphens are not checked, nor is the length of the name.
-/

namespace TrackerSearch.Domain

open Unicode

/-- ASCII characters that may not appear in a domain of a web address. -/
def isDenied (c : Char) : Bool :=
  c.toNat ≤ 0x20 || c.toNat == 0x7F || "%#/:<>?@[\\]^|".toList.contains c

/-- The longest label, in characters, that is encoded. -/
def encodeLimit : Nat := 1000

/-- The longest encoded label, after its prefix, that is decoded. -/
def decodeLimit : Nat := 2000

/-- Maps the characters of a name; `none` when one is disallowed. -/
def mapChars : List Char → Option (List Char)
  | [] => some []
  | c :: rest => do
    let mapped ← match idnaStatus c with
      | .valid => some [c]
      | .mapped target => some target
      | .ignored => some []
      | .disallowed => none
    return mapped ++ (← mapChars rest)

/-- Whether a label is written in Punycode. -/
def isEncoded (label : List Char) : Bool :=
  label.take 4 == ['x', 'n', '-', '-']

/-- The Unicode form of one label; an encoded label must decode to valid characters, not all
of them ASCII. -/
def decodeLabel (label : List Char) : Option (List Char) :=
  if !isEncoded label then some label
  else if label.any (0x80 ≤ ·.toNat) then none
  else
    let rest := label.drop 4
    if rest.length > decodeLimit then none
    else do
      let decoded ← Punycode.decode rest
      if decoded.all (·.toNat < 0x80) then none
      else if nfc decoded != decoded then none
      else if decoded.any fun c =>
          c == '.' || (c.toNat < 0x80 && isDenied c) || !(match idnaStatus c with
            | .valid => true
            | _ => false) then none
      else some decoded

/-- Whether the zero-width non-joiner at the head of `after` may stand there, `before`
holding the characters before it, nearest first. -/
def nonJoinerAllowed (before after : List Char) : Bool :=
  match before with
  | [] => false
  | b :: _ =>
    isVirama b ||
      (match before.dropWhile (joiningType · == .transparent) with
        | c :: _ => joiningType c == .left || joiningType c == .dual
        | [] => false) &&
      (match (after.drop 1).dropWhile (joiningType · == .transparent) with
        | c :: _ => joiningType c == .right || joiningType c == .dual
        | [] => false)

/-- Whether each joiner of a label stands where the joining rules allow it. -/
def joinersAllowed : List Char → List Char → Bool
  | _, [] => true
  | before, c :: rest =>
    let ok :=
      if c == '\u200C' then nonJoinerAllowed before (c :: rest)
      else if c == '\u200D' then (match before with
        | b :: _ => isVirama b
        | [] => false)
      else true
    ok && joinersAllowed (c :: before) rest

/-- The checks every label meets: not beginning with a mark, and joiners where allowed. -/
def labelValid (label : List Char) : Bool :=
  (match label with
    | c :: _ => !markChars.contains c
    | [] => true) &&
  joinersAllowed [] label

/-- Whether a character gives a name right-to-left text. -/
def isRightToLeft (c : Char) : Bool :=
  let k := bidiClass c
  k == .r || k == .al || k == .an

/-- The last class of a label, trailing marks skipped. -/
def lastClass (label : List Char) : Option BidiClass :=
  ((label.reverse.map bidiClass).dropWhile (· == .nsm)).head?

/-- The direction rule for a label of a name with right-to-left text. -/
def bidiLabelValid (label : List Char) : Bool :=
  match label with
  | [] => true
  | c :: rest =>
    let classes := rest.map bidiClass
    match bidiClass c with
    | .l =>
      classes.all (fun k => [BidiClass.l, .en, .es, .cs, .et, .on, .bn, .nsm].contains k) &&
      (match lastClass label with
        | some k => k == .l || k == .en
        | none => true)
    | .r | .al =>
      classes.all (fun k => [BidiClass.r, .al, .an, .en, .es, .cs, .et, .on, .bn, .nsm].contains k) &&
      (match lastClass label with
        | some k => k == .r || k == .al || k == .en || k == .an
        | none => false) &&
      !(classes.contains .en && classes.contains .an)
    | _ => false

/-- The ASCII form of a label in Unicode form. -/
def encodeLabel (label : List Char) : Option (List Char) :=
  if label.all (·.toNat < 0x80) then some label
  else if label.length > encodeLimit then none
  else some (['x', 'n', '-', '-'] ++ Punycode.encode label)

/-- The ASCII form of a domain name given as bytes; `none` when the name is refused. -/
def toAscii (bytes : List Nat) : Option String := do
  let chars := (Utf8.decodeLossy bytes).toList
  let mapped := nfc (← mapChars chars)
  if mapped.any fun m => m.toNat < 0x80 && isDenied m then none
  let labels := mapped.splitOn '.'
  let decoded ← labels.mapM decodeLabel
  if !decoded.all labelValid then none
  if decoded.any (·.any isRightToLeft) && !decoded.all bidiLabelValid then none
  let encoded ← decoded.mapM encodeLabel
  return String.ofList (List.intercalate ['.'] encoded)

end TrackerSearch.Domain
