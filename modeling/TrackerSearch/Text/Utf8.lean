/-!
UTF-8 bytes of text and text of bytes. Decoding takes the shortest well-formed sequence at
each point; a sequence that is cut short, overlong, a surrogate or beyond U+10FFFF is
invalid. The lossy decoding puts one U+FFFD in place of each maximal invalid part, that is
of the longest prefix of a would-be sequence that could still have been completed.
-/

namespace TrackerSearch.Utf8

/-- The UTF-8 bytes of one character. -/
def encodeChar (c : Char) : List Nat :=
  let n := c.toNat
  if n < 0x80 then [n]
  else if n < 0x800 then [0xC0 + n / 64, 0x80 + n % 64]
  else if n < 0x10000 then [0xE0 + n / 4096, 0x80 + n / 64 % 64, 0x80 + n % 64]
  else [0xF0 + n / 262144, 0x80 + n / 4096 % 64, 0x80 + n / 64 % 64, 0x80 + n % 64]

/-- The UTF-8 bytes of a text. -/
def encode (s : String) : List Nat :=
  s.toList.flatMap encodeChar

/-- The number of UTF-8 bytes of a text. -/
def byteLength (s : String) : Nat :=
  s.utf8ByteSize

/-- Whether a byte continues a sequence. -/
def isContinuation (b : Nat) : Bool :=
  0x80 ≤ b && b ≤ 0xBF

/-- The range allowed for the second byte after a leading byte, and the number of bytes
that follow the leading byte; `none` for a byte that cannot lead. -/
def leadShape (b : Nat) : Option (Nat × Nat × Nat) :=
  if 0xC2 ≤ b && b ≤ 0xDF then some (0x80, 0xBF, 1)
  else if b == 0xE0 then some (0xA0, 0xBF, 2)
  else if 0xE1 ≤ b && b ≤ 0xEC then some (0x80, 0xBF, 2)
  else if b == 0xED then some (0x80, 0x9F, 2)
  else if 0xEE ≤ b && b ≤ 0xEF then some (0x80, 0xBF, 2)
  else if b == 0xF0 then some (0x90, 0xBF, 3)
  else if 0xF1 ≤ b && b ≤ 0xF3 then some (0x80, 0xBF, 3)
  else if b == 0xF4 then some (0x80, 0x8F, 3)
  else none

/-- The character of the sequence at the front of some bytes, whose first byte is `b`, or
`none` for a maximal invalid part, with the number of bytes it takes. -/
def front (b : Nat) (rest : List Nat) : Option Char × Nat :=
  if b < 0x80 then (some (Char.ofNat b), 1)
  else match leadShape b, rest with
    | some (lo, hi, more), b2 :: rest2 =>
      if !(lo ≤ b2 && b2 ≤ hi) then (none, 1)
      else if more == 1 then (some (Char.ofNat ((b % 32) * 64 + b2 % 64)), 2)
      else match rest2 with
        | b3 :: rest3 =>
          if !isContinuation b3 then (none, 2)
          else if more == 2 then (some (Char.ofNat ((b % 16) * 4096 + (b2 % 64) * 64 + b3 % 64)), 3)
          else match rest3 with
            | b4 :: _ =>
              if !isContinuation b4 then (none, 3)
              else (some (Char.ofNat ((b % 8) * 262144 + (b2 % 64) * 4096 + (b3 % 64) * 64 + b4 % 64)), 4)
            | [] => (none, 3)
        | [] => (none, 2)
    | _, _ => (none, 1)

theorem one_le_front (b : Nat) (rest : List Nat) : 1 ≤ (front b rest).2 := by
  unfold front
  repeat' split
  all_goals simp

/-- Decodes bytes into characters and invalid parts, in order. -/
def pieces : List Nat → List (Option Char)
  | [] => []
  | b :: rest =>
    have := one_le_front b rest
    (front b rest).1 :: pieces ((b :: rest).drop (front b rest).2)
termination_by bs => bs.length
decreasing_by simp; omega

/-- The text of bytes that are well-formed UTF-8, or `none`. -/
def decode? (bs : List Nat) : Option String :=
  (pieces bs).mapM id |>.map String.ofList

/-- The text of bytes with U+FFFD for each maximal invalid part. -/
def decodeLossy (bs : List Nat) : String :=
  String.ofList ((pieces bs).map fun p => p.getD '�')

end TrackerSearch.Utf8
