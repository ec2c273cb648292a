/-!
Numeric host addresses of web addresses.

An IPv4 address is one to four dot-separated numbers, each decimal, octal (a leading `0`) or
hexadecimal (a leading `0x`); the last number fills the bytes the others leave, and an
empty last part (a trailing dot) is dropped. A host is read as IPv4 when its last label is a
number. An IPv6 address is eight groups of up to four hexadecimal digits, `::` standing for
a run of zero groups, and the last two groups may be written as an IPv4 address in decimal.
-/

namespace TrackerSearch.Address

/-- The value of a hexadecimal digit. -/
def hexDigit? (c : Char) : Option Nat :=
  if '0' ≤ c && c ≤ '9' then some (c.toNat - 48)
  else if 'a' ≤ c && c ≤ 'f' then some (c.toNat - 87)
  else if 'A' ≤ c && c ≤ 'F' then some (c.toNat - 55)
  else none

/-- The value of digits in a radix, when every one is a digit of it. -/
def digitsIn (radix : Nat) (ds : List Char) : Option Nat :=
  ds.foldlM (fun acc c => do
    let d ← hexDigit? c
    if d < radix then some (acc * radix + d) else none) 0

/-- Reads one number of an IPv4 address: `none` when the part is not written as a number,
`some none` when it is one but does not fit in 32 bits. -/
def ipv4Number? (part : List Char) : Option (Option Nat) := do
  if part.isEmpty then none
  let (radix, ds) := match part with
    | '0' :: 'x' :: ds => (16, ds)
    | '0' :: 'X' :: ds => (16, ds)
    | '0' :: d :: ds => (8, d :: ds)
    | _ => (10, part)
  if ds.isEmpty then return some 0
  let n ← digitsIn radix ds
  return if n < Nat.pow 2 32 then some n else none

/-- Whether a host's last label, a trailing dot aside, is written as a number, whether or not
it fits in 32 bits. -/
def endsInNumber (host : String) : Bool :=
  let parts := (host.toList.splitOn '.').reverse
  let last := match parts with
    | [] :: next :: _ => some next
    | [] :: [] => none
    | p :: _ => some p
    | [] => none
  match last with
  | none => false
  | some p => (!p.isEmpty && p.all Char.isDigit) || (ipv4Number? p).isSome

/-- An IPv4 address as a 32-bit number. -/
def parseIpv4 (host : String) : Option Nat := do
  let parts := host.toList.splitOn '.'
  let parts := if parts.getLast? == some [] then parts.dropLast else parts
  if parts.length > 4 then none
  let numbers ← parts.mapM fun p => (ipv4Number? p).join
  match numbers.reverse with
  | [] => none
  | last :: firsts =>
    let firsts := firsts.reverse
    if last ≥ Nat.pow 2 (8 * (4 - firsts.length)) then none
    else if firsts.any (· > 255) then none
    else
      return (firsts.zipIdx.foldl (fun acc (n, i) => acc + n * Nat.pow 2 (8 * (3 - i))) last)

/-- The state of reading an IPv6 address: the groups so far, where `::` stood, and the rest
of the text. -/
structure Ipv6Reader where
  pieces : Array Nat := Array.replicate 8 0
  pointer : Nat := 0
  compress : Option Nat := none

/-- Reads up to four hexadecimal digits; gives the value and how many were read. -/
def readGroup (cs : List Char) : Nat × Nat :=
  let ds := (cs.take 4).takeWhile (fun c => (hexDigit? c).isSome)
  (ds.foldl (fun acc c => acc * 16 + (hexDigit? c).getD 0) 0, ds.length)

/-- Reads the dotted decimal tail of an IPv6 address into the groups from `pointer` on. -/
def readIpv4Tail (r : Ipv6Reader) : List Char → Nat → Nat → Option Ipv6Reader
  | [], seen, _ => if seen == 4 then some r else none
  | cs, seen, fuel + 1 => do
    let cs ← if seen > 0 then
        (if seen < 4 then (match cs with
          | '.' :: rest => some rest
          | _ => none) else none)
      else some cs
    let ds := cs.takeWhile Char.isDigit
    if ds.isEmpty then none
    if ds.length > 1 && ds.head? == some '0' then none
    let v := ds.foldl (fun acc c => acc * 10 + (c.toNat - 48)) 0
    if v > 255 then none
    let piece := r.pieces[r.pointer]?.getD 0 * 256 + v
    let r := { r with pieces := r.pieces.set! r.pointer piece }
    let seen := seen + 1
    let r := if seen == 2 || seen == 4 then { r with pointer := r.pointer + 1 } else r
    readIpv4Tail r (cs.drop ds.length) seen fuel
  | _, _, 0 => none

/-- Reads the groups of an IPv6 address. -/
def readGroups (r : Ipv6Reader) : List Char → Nat → Option Ipv6Reader
  | [], _ => some r
  | _, 0 => none
  | cs, fuel + 1 => do
    if r.pointer == 8 then none
    match cs with
    | ':' :: rest =>
      if r.compress.isSome then none
      let p := r.pointer + 1
      readGroups { r with pointer := p, compress := some p } rest fuel
    | _ =>
      let (value, n) := readGroup cs
      match cs.drop n with
      | '.' :: _ =>
        if n == 0 || r.pointer > 6 then none
        readIpv4Tail r cs 0 (cs.length + 1)
      | ':' :: rest =>
        if rest.isEmpty then none
        readGroups { r with pieces := r.pieces.set! r.pointer value, pointer := r.pointer + 1 } rest fuel
      | [] => some { r with pieces := r.pieces.set! r.pointer value, pointer := r.pointer + 1 }
      | _ => none

/-- An IPv6 address, the text inside the brackets, as its eight groups. -/
def parseIpv6 (text : String) : Option (List Nat) := do
  let cs := text.toList
  if cs.length < 2 then none
  let (start, cs) ← match cs with
    | ':' :: ':' :: rest => some ({ pointer := 1, compress := some 1 }, rest)
    | ':' :: _ => none
    | _ => some ({}, cs)
  let r ← readGroups start cs (cs.length + 1)
  match r.compress with
  | some c =>
    let moved := r.pointer - c
    let pieces := (List.range 8).map fun j =>
      if j < c then r.pieces[j]?.getD 0
      else if j < 8 - moved then 0
      else r.pieces[c + (j - (8 - moved))]?.getD 0
    return pieces
  | none => if r.pointer == 8 then return r.pieces.toList else none

end TrackerSearch.Address
