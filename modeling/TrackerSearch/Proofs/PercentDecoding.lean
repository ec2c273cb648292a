
import TrackerSearch.Text.Percent
import TrackerSearch.Proofs.Utf8RoundTrip

/-!
# Decoding query-string tokens

A token's bytes are checked for a `%` that is not followed by two hexadecimal digits
(`BadEscapeAt`); the first one is reported, with the bytes from it, at most three, read lossily.
A token without one is read left to right (`resolve`): a plus sign stands for a blank, a `%` and
two digits for the byte they spell, every other byte for itself; the token decodes to the text
with those bytes, and is refused when no text has them (`unescape_reads_escapes`).

The decoder makes plus signs blanks before it reads the escapes, so `%2B` still stands for a plus
sign (`decodeBytes_spaced`). Writing a text byte by byte, with a plus sign for a blank, letters,
digits and `-._~` as themselves and every other byte escaped (`escape`), gives a token that
decodes back to the text.
-/

namespace TrackerSearch.Percent

/-! ## Bad escapes -/

/-- The byte at an index is a `%` that is not followed by two hexadecimal digits. -/
def BadEscapeAt (bytes : List Nat) (i : Nat) : Prop :=
  bytes[i]? = some 37 ∧ ¬(bytes[i + 1]?.any isHexByte ∧ bytes[i + 2]?.any isHexByte)

instance (bytes : List Nat) (i : Nat) : Decidable (BadEscapeAt bytes i) :=
  inferInstanceAs (Decidable (_ ∧ _))

theorem badEscapeAt_succ (b : Nat) (rest : List Nat) (i : Nat) :
    BadEscapeAt (b :: rest) (i + 1) ↔ BadEscapeAt rest i := by
  simp [BadEscapeAt]

theorem badEscapeAt_zero (b : Nat) (rest : List Nat) :
    BadEscapeAt (b :: rest) 0 ↔ b = 37 ∧ ¬(rest[0]?.any isHexByte ∧ rest[1]?.any isHexByte) := by
  simp [BadEscapeAt]

theorem firstBadEscape_cons_of_bad {b : Nat} {rest : List Nat} (h : BadEscapeAt (b :: rest) 0) :
    firstBadEscape (b :: rest) = some ((b :: rest).take 3) := by
  obtain ⟨rfl, hdigits⟩ := (badEscapeAt_zero b rest).1 h
  rw [firstBadEscape.eq_def (37 :: rest)]
  dsimp only
  rw [if_pos (beq_self_eq_true 37)]
  rcases rest with _ | ⟨x, _ | ⟨y, r⟩⟩
  · rfl
  · rfl
  · have hxy : (isHexByte x && isHexByte y) = false := by simpa using hdigits
    dsimp only
    rw [if_neg (by simp [hxy])]
    rfl

theorem firstBadEscape_cons_of_good {b : Nat} {rest : List Nat} (h : ¬BadEscapeAt (b :: rest) 0) :
    firstBadEscape (b :: rest) = firstBadEscape rest := by
  rw [firstBadEscape.eq_def (b :: rest)]
  dsimp only
  by_cases hb : b = 37
  · subst hb
    rw [if_pos (beq_self_eq_true 37)]
    rcases rest with _ | ⟨x, _ | ⟨y, r⟩⟩
    · exact absurd (by simp [BadEscapeAt]) h
    · exact absurd (by simp [BadEscapeAt]) h
    · have hxy : (isHexByte x && isHexByte y) = true := by
        simpa [BadEscapeAt] using h
      dsimp only
      rw [if_pos hxy]
  · rw [if_neg (by simpa using hb)]

/-- No `%` of the bytes lacks its two digits exactly when the scan finds none. -/
theorem firstBadEscape_eq_none_iff : ∀ {bs : List Nat},
    firstBadEscape bs = none ↔ ∀ i, ¬BadEscapeAt bs i
  | [] => by simp [firstBadEscape, BadEscapeAt]
  | b :: rest => by
    by_cases h0 : BadEscapeAt (b :: rest) 0
    · rw [firstBadEscape_cons_of_bad h0]
      simpa using ⟨0, h0⟩
    · rw [firstBadEscape_cons_of_good h0, firstBadEscape_eq_none_iff]
      constructor
      · intro hrest i
        cases i with
        | zero => exact h0
        | succ i =>
          rw [badEscapeAt_succ]
          exact hrest i
      · intro hall i
        rw [← badEscapeAt_succ b]
        exact hall (i + 1)

/-- The scan reports the first `%` that lacks its two digits, with the bytes from it. -/
theorem firstBadEscape_of_first : ∀ {bs : List Nat} {i : Nat}, BadEscapeAt bs i →
    (∀ j < i, ¬BadEscapeAt bs j) → firstBadEscape bs = some ((bs.drop i).take 3)
  | [], i, h, _ => by simp [BadEscapeAt] at h
  | b :: rest, 0, h, _ => by rw [firstBadEscape_cons_of_bad h]; rfl
  | b :: rest, i + 1, h, hfirst => by
    rw [firstBadEscape_cons_of_good (hfirst 0 (by omega)), List.drop_succ_cons]
    refine firstBadEscape_of_first ((badEscapeAt_succ b rest i).1 h) fun j hj => ?_
    rw [← badEscapeAt_succ b]
    exact hfirst (j + 1) (by omega)

/-! ## Reading a token's bytes -/

/-- The bytes of a token read left to right: a plus sign stands for a blank, a `%` followed by
two hexadecimal digits for the byte they spell, and every other byte for itself. -/
def resolve : List Nat → List Nat
  | [] => []
  | 43 :: rest => 32 :: resolve rest
  | 37 :: x :: y :: rest =>
    if isHexByte x && isHexByte y then (hexByteValue x * 16 + hexByteValue y) :: resolve rest
    else 37 :: resolve (x :: y :: rest)
  | b :: rest => b :: resolve rest

theorem decodeBytes_cons_of_ne {b : Nat} (hb : b ≠ 37) (rest : List Nat) :
    decodeBytes (b :: rest) = b :: decodeBytes rest := by
  rcases rest with _ | ⟨x, _ | ⟨y, r⟩⟩
  · rfl
  · rfl
  · rw [decodeBytes.eq_1, if_neg (by simp [hb])]

theorem resolve_cons_of_ne {b : Nat} (h43 : b ≠ 43) (h37 : b ≠ 37) (rest : List Nat) :
    resolve (b :: rest) = b :: resolve rest := by
  rw [resolve.eq_def (b :: rest)]
  split <;> simp_all

theorem ne_of_isHexByte {x : Nat} (hx : isHexByte x = true) : x ≠ 43 ∧ x ≠ 37 := by
  simp only [isHexByte, Bool.or_eq_true, Bool.and_eq_true, decide_eq_true_eq] at hx
  omega

/-- The decoder makes every plus sign a blank before it reads escapes; a digit is no plus sign. -/
theorem spaced_of_isHexByte {x : Nat} (hx : isHexByte x = true) : (if x == 43 then 32 else x) = x := by
  rw [if_neg (by simpa using (ne_of_isHexByte hx).1)]

theorem isHexByte_spaced (x : Nat) : isHexByte (if x == 43 then 32 else x) = isHexByte x := by
  by_cases h : x = 43
  · subst h; rfl
  · rw [if_neg (by simpa using h)]

/-- Making plus signs blanks and then reading the escapes reads the bytes as a token. -/
theorem decodeBytes_spaced (bs : List Nat) :
    decodeBytes (bs.map fun b => if b == 43 then 32 else b) = resolve bs := by
  fun_induction resolve bs with
  | case1 => rfl
  | case2 rest ih =>
    rw [List.map_cons, if_pos (beq_self_eq_true 43), decodeBytes_cons_of_ne (by decide), ih]
  | case3 x y rest hxy ih =>
    obtain ⟨hx, hy⟩ := Bool.and_eq_true_iff.1 hxy
    rw [List.map_cons, List.map_cons, List.map_cons, spaced_of_isHexByte hx,
      spaced_of_isHexByte hy, decodeBytes.eq_1, if_pos (by simp [hx, hy]), ih]
  | case4 x y rest hxy ih =>
    have h37 : (if (37 == 43) = true then 32 else 37) = 37 := rfl
    rw [List.map_cons, List.map_cons] at ih
    rw [List.map_cons, List.map_cons, List.map_cons, h37, decodeBytes.eq_1, isHexByte_spaced,
      isHexByte_spaced, if_neg (by simpa using hxy), ih]
  | case5 b rest h43 h37 ih =>
    rw [List.map_cons, if_neg (by simpa using h43)]
    by_cases hb : b = 37
    · subst hb
      rcases rest with _ | ⟨x, _ | ⟨y, r⟩⟩
      · rfl
      · rw [← ih]
        rfl
      · exact absurd rfl (h37 x y r rfl)
    · rw [decodeBytes_cons_of_ne hb, ih]

/-- Bytes with no `%` read as themselves, each plus sign as a blank. -/
theorem resolve_of_no_percent : ∀ {bs : List Nat}, (∀ b ∈ bs, b ≠ 37) →
    resolve bs = bs.map fun b => if b = 43 then 32 else b
  | [], _ => rfl
  | b :: rest, h => by
    have ih := resolve_of_no_percent fun x hx => h x (List.mem_cons_of_mem b hx)
    by_cases h43 : b = 43
    · subst h43
      rw [resolve.eq_2, ih]
      rfl
    · rw [resolve_cons_of_ne h43 (h b List.mem_cons_self), ih, List.map_cons, if_neg h43]

theorem resolve_of_plain {bs : List Nat} (h : ∀ b ∈ bs, b ≠ 43 ∧ b ≠ 37) : resolve bs = bs := by
  rw [resolve_of_no_percent fun b hb => (h b hb).2]
  exact (List.map_congr_left fun b hb => if_neg (h b hb).1).trans (List.map_id' bs)

/-! ## The decoder -/

theorem any_of_mem {t : String} {c : Char} (h : c ∈ t.toList) : t.any (· == c) = true := by
  simpa [String.any, String.contains_bool_eq] using h

theorem unescape_of_no_bad {t : String} (h : ∀ i, ¬BadEscapeAt (Utf8.encode t) i) :
    unescape t = (Utf8.decode? (resolve (Utf8.encode t))).elim (.error .invalidUtf8) .ok := by
  unfold unescape
  split
  · next hplain =>
    simp only [Bool.not_or, Bool.and_eq_true, Bool.not_eq_true'] at hplain
    have hbytes : ∀ b ∈ Utf8.encode t, b ≠ 43 ∧ b ≠ 37 := by
      intro b hb
      constructor
      · rintro rfl
        exact absurd (any_of_mem (Utf8.mem_of_mem_encode hb (by omega))) (by simp [hplain.2])
      · rintro rfl
        exact absurd (any_of_mem (Utf8.mem_of_mem_encode hb (by omega))) (by simp [hplain.1])
    rw [resolve_of_plain hbytes, Utf8.decode?_encode]
    rfl
  · dsimp only
    rw [firstBadEscape_eq_none_iff.2 h]
    dsimp only
    rw [decodeBytes_spaced]
    cases Utf8.decode? (resolve (Utf8.encode t)) <;> rfl

/-- Without a bad escape, a token decodes to the text whose bytes its escapes spell, and is
refused when no text has those bytes. -/
theorem unescape_of_wellFormed {t : String} (h : ∀ i, ¬BadEscapeAt (Utf8.encode t) i) :
    (∀ s, Utf8.encode s = resolve (Utf8.encode t) → unescape t = .ok s) ∧
    ((∀ s, Utf8.encode s ≠ resolve (Utf8.encode t)) → unescape t = .error .invalidUtf8) := by
  rw [unescape_of_no_bad h]
  constructor
  · intro s hs
    rw [← hs, Utf8.decode?_encode]
    rfl
  · intro hnone
    cases hd : Utf8.decode? (resolve (Utf8.encode t)) with
    | none => rfl
    | some s => exact absurd (Utf8.decode?_eq_some_iff.1 hd) (hnone s)

/-- The first `%` without its two digits is reported with the bytes from it, at most three. -/
theorem unescape_of_bad {t : String} {i : Nat} (h : BadEscapeAt (Utf8.encode t) i)
    (hfirst : ∀ j < i, ¬BadEscapeAt (Utf8.encode t) j) :
    unescape t = .error (.invalidEscape (Utf8.decodeLossy (((Utf8.encode t).drop i).take 3))) := by
  have hpct : t.any (· == '%') = true :=
    any_of_mem (Utf8.mem_of_mem_encode (List.mem_of_getElem? h.1) (by decide))
  unfold unescape
  rw [if_neg (by simp [hpct])]
  dsimp only
  rw [firstBadEscape_of_first h hfirst]

/-- An ASCII token with no `%` decodes to itself with each plus sign made a blank. -/
theorem unescape_of_ascii {s : String} (hascii : ∀ c ∈ s.toList, c.toNat < 128)
    (hpct : ∀ c ∈ s.toList, c ≠ '%') :
    unescape s = .ok (String.ofList (s.toList.map fun c => if c = '+' then ' ' else c)) := by
  have hbytes : Utf8.encode s = s.toList.map Char.toNat := Utf8.encode_of_ascii hascii
  have h37 : ∀ b ∈ Utf8.encode s, b ≠ 37 := fun b hb h =>
    hpct _ (Utf8.mem_of_mem_encode hb (by omega)) (by subst h; rfl)
  have hclean : ∀ i, ¬BadEscapeAt (Utf8.encode s) i := fun i hbad =>
    h37 _ (List.mem_of_getElem? hbad.1) rfl
  have hspaced : ∀ c ∈ s.toList.map (fun c => if c = '+' then ' ' else c), c.toNat < 128 := by
    simp only [List.mem_map]
    rintro _ ⟨c, hc, rfl⟩
    split
    · decide
    · exact hascii c hc
  refine (unescape_of_wellFormed hclean).1 _ ?_
  rw [resolve_of_no_percent h37, Utf8.encode, String.toList_ofList, Utf8.encode_of_ascii hspaced,
    hbytes, List.map_map, List.map_map]
  refine List.map_congr_left fun c _ => ?_
  by_cases hplus : c = '+'
  · subst hplus
    rfl
  · have h43 : c.toNat ≠ 43 := fun h => hplus (Char.toNat_inj.1 (h.trans rfl))
    simp [hplus, h43]

/-! ## Writing a text as a token -/

/-- Whether a byte is written as itself: an ASCII letter or digit, `-`, `.`, `_` or `~`. -/
def isUnreserved (b : Nat) : Bool :=
  (48 ≤ b && b ≤ 57) || (65 ≤ b && b ≤ 90) || (97 ≤ b && b ≤ 122) ||
    b == 45 || b == 46 || b == 95 || b == 126

/-- The upper-case hexadecimal digit of a number below sixteen, as an ASCII byte. -/
def hexDigit (n : Nat) : Nat :=
  if n < 10 then 48 + n else 55 + n

/-- How a byte is written in a token: a blank as a plus sign, an unreserved byte as itself, and
any other byte as `%` and its two hexadecimal digits. -/
def escapeByte (b : Nat) : List Nat :=
  if b = 32 then [43]
  else if isUnreserved b then [b]
  else [37, hexDigit (b / 16), hexDigit (b % 16)]

/-- A text written as a token, byte by byte. -/
def escape (s : String) : String :=
  String.ofList (((Utf8.encode s).flatMap escapeByte).map Char.ofNat)

theorem hexDigit_spec : ∀ n, n < 16 →
    hexDigit n < 128 ∧ isHexByte (hexDigit n) = true ∧ hexByteValue (hexDigit n) = n := by
  decide +kernel

theorem isUnreserved_bounds {b : Nat} (hb : isUnreserved b = true) : b < 128 ∧ b ≠ 43 ∧ b ≠ 37 := by
  simp only [isUnreserved, Bool.or_eq_true, Bool.and_eq_true, decide_eq_true_eq, beq_iff_eq] at hb
  omega

theorem escapeByte_lt {b : Nat} (hb : b < 256) : ∀ x ∈ escapeByte b, x < 128 := by
  unfold escapeByte
  split_ifs with h32 hu
  · simp
  · simpa using (isUnreserved_bounds hu).1
  · simp [(hexDigit_spec _ (by omega : b / 16 < 16)).1, (hexDigit_spec _ (by omega : b % 16 < 16)).1]

theorem not_badEscapeAt_of_ne {b : Nat} (hb : b ≠ 37) (rest : List Nat) :
    ¬BadEscapeAt (b :: rest) 0 := fun h => hb ((badEscapeAt_zero b rest).1 h).1

theorem firstBadEscape_escapeByte {b : Nat} (hb : b < 256) (rest : List Nat) :
    firstBadEscape (escapeByte b ++ rest) = firstBadEscape rest := by
  unfold escapeByte
  split_ifs with h32 hu
  · exact firstBadEscape_cons_of_good (not_badEscapeAt_of_ne (by decide) rest)
  · exact firstBadEscape_cons_of_good (not_badEscapeAt_of_ne (isUnreserved_bounds hu).2.2 rest)
  · obtain ⟨-, hx, -⟩ := hexDigit_spec (b / 16) (by omega)
    obtain ⟨-, hy, -⟩ := hexDigit_spec (b % 16) (by omega)
    have hgood : ¬BadEscapeAt (37 :: hexDigit (b / 16) :: hexDigit (b % 16) :: rest) 0 := by
      simp [BadEscapeAt, hx, hy]
    rw [List.cons_append, List.cons_append, List.cons_append, List.nil_append,
      firstBadEscape_cons_of_good hgood,
      firstBadEscape_cons_of_good (not_badEscapeAt_of_ne (ne_of_isHexByte hx).2 _),
      firstBadEscape_cons_of_good (not_badEscapeAt_of_ne (ne_of_isHexByte hy).2 _)]

theorem resolve_escapeByte {b : Nat} (hb : b < 256) (rest : List Nat) :
    resolve (escapeByte b ++ rest) = b :: resolve rest := by
  unfold escapeByte
  split_ifs with h32 hu
  · subst h32
    rfl
  · exact resolve_cons_of_ne (isUnreserved_bounds hu).2.1 (isUnreserved_bounds hu).2.2 rest
  · obtain ⟨-, hx, hvx⟩ := hexDigit_spec (b / 16) (by omega)
    obtain ⟨-, hy, hvy⟩ := hexDigit_spec (b % 16) (by omega)
    rw [List.cons_append, List.cons_append, List.cons_append, List.nil_append, resolve.eq_3,
      if_pos (by simp [hx, hy]), hvx, hvy, Nat.div_add_mod']

theorem escape_bytes {bs : List Nat} (hbs : ∀ b ∈ bs, b < 256) :
    firstBadEscape (bs.flatMap escapeByte) = none ∧ resolve (bs.flatMap escapeByte) = bs := by
  induction bs with
  | nil => exact ⟨rfl, rfl⟩
  | cons b bs ih =>
    obtain ⟨hbad, hres⟩ := ih fun x hx => hbs x (List.mem_cons_of_mem b hx)
    have hb := hbs b List.mem_cons_self
    rw [List.flatMap_cons, firstBadEscape_escapeByte hb, resolve_escapeByte hb, hbad, hres]
    exact ⟨rfl, rfl⟩

/-- Writing a text as a token and decoding it gives the text back. -/
theorem unescape_escape (s : String) : unescape (escape s) = .ok s := by
  have hlt : ∀ b ∈ Utf8.encode s, b < 256 := fun _ hb => Utf8.lt_of_mem_encode hb
  obtain ⟨hnone, hres⟩ := escape_bytes hlt
  have hbytes : Utf8.encode (escape s) = (Utf8.encode s).flatMap escapeByte := by
    refine Utf8.encode_ofList_ascii fun x hx => ?_
    obtain ⟨b, hb, hxb⟩ := List.mem_flatMap.1 hx
    exact escapeByte_lt (hlt b hb) x hxb
  have hclean : ∀ i, ¬BadEscapeAt (Utf8.encode (escape s)) i := by
    rw [hbytes]
    exact firstBadEscape_eq_none_iff.1 hnone
  exact (unescape_of_wellFormed hclean).1 s (by rw [hbytes, hres])

/-- A token is refused at its first `%` without two hexadecimal digits; one with none decodes
to the text its bytes spell, plus signs made blanks; every text written as a token decodes back
to itself. -/
theorem unescape_reads_escapes :
    (∀ t i, BadEscapeAt (Utf8.encode t) i → (∀ j < i, ¬BadEscapeAt (Utf8.encode t) j) →
      unescape t = .error (.invalidEscape (Utf8.decodeLossy (((Utf8.encode t).drop i).take 3)))) ∧
    (∀ t, (∀ i, ¬BadEscapeAt (Utf8.encode t) i) →
      (∀ s, Utf8.encode s = resolve (Utf8.encode t) → unescape t = .ok s) ∧
      ((∀ s, Utf8.encode s ≠ resolve (Utf8.encode t)) → unescape t = .error .invalidUtf8)) ∧
    ∀ s, unescape (escape s) = .ok s :=
  ⟨fun _ _ => unescape_of_bad, fun _ => unescape_of_wellFormed, unescape_escape⟩

/-- A `%` cut short before a two-byte character is reported with half of that character, and a
token with a plus sign and an escaped two-byte character decodes. -/
theorem unescape_reads_escapes_cafe :
    BadEscapeAt (Utf8.encode "%xé") 0 ∧
    unescape "%xé" = .error (.invalidEscape (Utf8.decodeLossy (((Utf8.encode "%xé").drop 0).take 3))) ∧
    (∀ i, ¬BadEscapeAt (Utf8.encode "caf%C3%A9+au+lait") i) ∧
    Utf8.encode "café au lait" = resolve (Utf8.encode "caf%C3%A9+au+lait") ∧
    unescape "caf%C3%A9+au+lait" = .ok "café au lait" := by
  have hbad : BadEscapeAt (Utf8.encode "%xé") 0 := by decide +kernel
  have hclean : ∀ i, ¬BadEscapeAt (Utf8.encode "caf%C3%A9+au+lait") i :=
    firstBadEscape_eq_none_iff.1 (by decide +kernel)
  have hres : Utf8.encode "café au lait" = resolve (Utf8.encode "caf%C3%A9+au+lait") := by
    decide +kernel
  exact ⟨hbad, unescape_reads_escapes.1 _ 0 hbad fun j hj => absurd hj (Nat.not_lt_zero j),
    hclean, hres, (unescape_reads_escapes.2.1 _ hclean).1 _ hres⟩

end TrackerSearch.Percent
