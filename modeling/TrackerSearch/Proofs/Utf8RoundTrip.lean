import TrackerSearch.Text.Utf8
import TrackerSearch.Proofs.Lowercase
import Mathlib.Tactic.Common

/-!
# Decoding is the inverse of encoding

The decoder reads the bytes of a character back as that character, so the bytes of any text
decode to the text (`decode?_encode`). Conversely, every character it reads was read from exactly
the bytes that encode it: a lead byte admits only the second bytes that make a sequence neither
overlong, a surrogate, nor beyond U+10FFFF, and those are the sequences the encoder writes. So
bytes decode to a text exactly when they are its encoding (`decode?_eq_some_iff`).

Both directions go one width at a time: a lemma on the lead byte (`leadShape_two` and its
fellows), one on the decoder's step (`front_two`, ...), and one on the encoder
(`encodeChar_two`, ...).
-/

namespace TrackerSearch.Utf8

open Unicode

/-! ## Lead bytes -/

theorem leadShape_two {b : Nat} (hb : 0xC2 ≤ b ∧ b ≤ 0xDF) : leadShape b = some (0x80, 0xBF, 1) := by
  have h : (0xC2 ≤ b && b ≤ 0xDF) = true := by simpa using hb
  rw [leadShape, if_pos h]

/-- A lead byte of three bytes admits the second byte of any sequence that is neither overlong
nor a surrogate. -/
theorem leadShape_three {b : Nat} (b2 : Nat) (hb : 0xE0 ≤ b ∧ b ≤ 0xEF)
    (hb2 : 0x80 ≤ b2 ∧ b2 ≤ 0xBF) (hlong : b = 0xE0 → 0xA0 ≤ b2) (hsurr : b = 0xED → b2 ≤ 0x9F) :
    ∃ lo hi, leadShape b = some (lo, hi, 2) ∧ lo ≤ b2 ∧ b2 ≤ hi := by
  unfold leadShape
  split_ifs <;> simp_all <;> omega

/-- A lead byte of four bytes admits the second byte of any sequence that is neither overlong
nor beyond U+10FFFF. -/
theorem leadShape_four {b : Nat} (b2 : Nat) (hb : 0xF0 ≤ b ∧ b ≤ 0xF4)
    (hb2 : 0x80 ≤ b2 ∧ b2 ≤ 0xBF) (hlong : b = 0xF0 → 0x90 ≤ b2) (hhigh : b = 0xF4 → b2 ≤ 0x8F) :
    ∃ lo hi, leadShape b = some (lo, hi, 3) ∧ lo ≤ b2 ∧ b2 ≤ hi := by
  unfold leadShape
  split_ifs <;> simp_all <;> omega

/-- What a lead byte's shape says: its range of second bytes lies among the continuation bytes
and rules out overlong sequences, surrogates and code points beyond U+10FFFF. -/
theorem leadShape_eq_some {b lo hi more : Nat} (h : leadShape b = some (lo, hi, more)) :
    0x80 ≤ lo ∧ hi ≤ 0xBF ∧
    (more = 1 ∧ 0xC2 ≤ b ∧ b ≤ 0xDF ∨
      more = 2 ∧ 0xE0 ≤ b ∧ b ≤ 0xEF ∧ (b = 0xE0 → 0xA0 ≤ lo) ∧ (b = 0xED → hi ≤ 0x9F) ∨
      more = 3 ∧ 0xF0 ≤ b ∧ b ≤ 0xF4 ∧ (b = 0xF0 → 0x90 ≤ lo) ∧ (b = 0xF4 → hi ≤ 0x8F)) := by
  unfold leadShape at h
  split_ifs at h <;> simp_all <;> omega

theorem isContinuation_of_lt {m : Nat} (h : m < 64) : isContinuation (0x80 + m) = true := by
  simp [isContinuation]
  omega

/-! ## Reading encoded characters -/

section Front

variable {b lo hi : Nat} (b2 b3 b4 : Nat) (rest : List Nat)

theorem front_two (hb : leadShape b = some (lo, hi, 1)) (h2 : lo ≤ b2 ∧ b2 ≤ hi) :
    front b (b2 :: rest) = (some (Char.ofNat ((b % 32) * 64 + b2 % 64)), 2) := by
  have h2' : (lo ≤ b2 && b2 ≤ hi) = true := by simpa using h2
  have hlead : ¬b < 0x80 := by have := leadShape_eq_some hb; omega
  unfold front
  rw [if_neg hlead, hb]
  simp [h2']

theorem front_three (hb : leadShape b = some (lo, hi, 2)) (h2 : lo ≤ b2 ∧ b2 ≤ hi)
    (h3 : isContinuation b3 = true) :
    front b (b2 :: b3 :: rest) =
      (some (Char.ofNat ((b % 16) * 4096 + (b2 % 64) * 64 + b3 % 64)), 3) := by
  have h2' : (lo ≤ b2 && b2 ≤ hi) = true := by simpa using h2
  have hlead : ¬b < 0x80 := by have := leadShape_eq_some hb; omega
  unfold front
  rw [if_neg hlead, hb]
  simp [h2', h3]

theorem front_four (hb : leadShape b = some (lo, hi, 3)) (h2 : lo ≤ b2 ∧ b2 ≤ hi)
    (h3 : isContinuation b3 = true) (h4 : isContinuation b4 = true) :
    front b (b2 :: b3 :: b4 :: rest) = (some (Char.ofNat
      ((b % 8) * 262144 + (b2 % 64) * 4096 + (b3 % 64) * 64 + b4 % 64)), 4) := by
  have h2' : (lo ≤ b2 && b2 ≤ hi) = true := by simpa using h2
  have hlead : ¬b < 0x80 := by have := leadShape_eq_some hb; omega
  unfold front
  rw [if_neg hlead, hb]
  simp [h2', h3, h4]

end Front

/-- The decoder reads the bytes of a character, whatever follows them, as that character. -/
theorem front_encodeChar (c : Char) (rest : List Nat) :
    ∃ b bs, encodeChar c = b :: bs ∧ front b (bs ++ rest) = (some c, bs.length + 1) := by
  have hv : c.toNat < 0xD800 ∨ (0xDFFF < c.toNat ∧ c.toNat < 0x110000) := c.valid
  have hc : ∀ m, m = c.toNat → Char.ofNat m = c := by
    rintro m rfl
    exact Char.ofNat_toNat c
  by_cases h1 : c.toNat < 0x80
  · refine ⟨c.toNat, [], by simp [encodeChar, h1], ?_⟩
    simp [front, h1, Char.ofNat_toNat]
  by_cases h2 : c.toNat < 0x800
  · refine ⟨0xC0 + c.toNat / 64, [0x80 + c.toNat % 64], by simp [encodeChar, h1, h2], ?_⟩
    rw [List.cons_append, List.nil_append, front_two _ rest (leadShape_two (by omega)) (by omega),
      hc _ (by omega)]
    rfl
  by_cases h3 : c.toNat < 0x10000
  · obtain ⟨lo, hi, hlead, hrange⟩ := leadShape_three (b := 0xE0 + c.toNat / 4096)
      (0x80 + c.toNat / 64 % 64) (by omega) (by omega) (by omega) (by omega)
    refine ⟨0xE0 + c.toNat / 4096, [0x80 + c.toNat / 64 % 64, 0x80 + c.toNat % 64],
      by simp [encodeChar, h1, h2, h3], ?_⟩
    rw [List.cons_append, List.cons_append, List.nil_append, front_three _ _ rest hlead hrange
      (isContinuation_of_lt (by omega)), hc _ (by omega)]
    rfl
  · obtain ⟨lo, hi, hlead, hrange⟩ := leadShape_four (b := 0xF0 + c.toNat / 262144)
      (0x80 + c.toNat / 4096 % 64) (by omega) (by omega) (by omega) (by omega)
    refine ⟨0xF0 + c.toNat / 262144, [0x80 + c.toNat / 4096 % 64, 0x80 + c.toNat / 64 % 64,
      0x80 + c.toNat % 64], by simp [encodeChar, h1, h2, h3], ?_⟩
    rw [List.cons_append, List.cons_append, List.cons_append, List.nil_append,
      front_four _ _ _ rest hlead hrange (isContinuation_of_lt (by omega))
        (isContinuation_of_lt (by omega)), hc _ (by omega)]
    rfl

theorem pieces_encodeChar_append (c : Char) (rest : List Nat) :
    pieces (encodeChar c ++ rest) = some c :: pieces rest := by
  obtain ⟨b, bs, henc, hfront⟩ := front_encodeChar c rest
  rw [henc, List.cons_append, pieces.eq_2, hfront]
  simp

theorem pieces_encode (s : String) : pieces (encode s) = s.toList.map some := by
  rw [encode]
  induction s.toList with
  | nil => simp [pieces]
  | cons c cs ih => rw [List.flatMap_cons, pieces_encodeChar_append, ih, List.map_cons]

/-- The bytes of a text decode to the text. -/
theorem decode?_encode (s : String) : decode? (encode s) = some s := by
  rw [decode?, pieces_encode, List.mapM_map, Function.id_comp,
    show (some : Char → Option Char) = fun c => pure (id c) from rfl, List.mapM_pure]
  simp

/-! ## Encoding decoded characters -/

section Widths

variable {b b2 b3 b4 : Nat}

theorem encodeChar_ofNat {n : Nat} (hv : n.isValidChar) : encodeChar (Char.ofNat n) =
    if n < 0x80 then [n]
    else if n < 0x800 then [0xC0 + n / 64, 0x80 + n % 64]
    else if n < 0x10000 then [0xE0 + n / 4096, 0x80 + n / 64 % 64, 0x80 + n % 64]
    else [0xF0 + n / 262144, 0x80 + n / 4096 % 64, 0x80 + n / 64 % 64, 0x80 + n % 64] := by
  simp only [encodeChar, toNat_ofNat_of_isValidChar hv]

theorem encodeChar_two (hb : 0xC2 ≤ b ∧ b ≤ 0xDF) (hb2 : 0x80 ≤ b2 ∧ b2 ≤ 0xBF) :
    encodeChar (Char.ofNat ((b % 32) * 64 + b2 % 64)) = [b, b2] := by
  rw [encodeChar_ofNat (Or.inl (by omega)), if_neg (by omega), if_pos (by omega)]
  simp only [List.cons.injEq, and_true]
  omega

theorem encodeChar_three (hb : 0xE0 ≤ b ∧ b ≤ 0xEF) (hb2 : 0x80 ≤ b2 ∧ b2 ≤ 0xBF)
    (hb3 : isContinuation b3 = true) (hlong : b = 0xE0 → 0xA0 ≤ b2)
    (hsurr : b = 0xED → b2 ≤ 0x9F) :
    encodeChar (Char.ofNat ((b % 16) * 4096 + (b2 % 64) * 64 + b3 % 64)) = [b, b2, b3] := by
  simp only [isContinuation, Bool.and_eq_true, decide_eq_true_eq] at hb3
  rw [encodeChar_ofNat (by unfold Nat.isValidChar; omega), if_neg (by omega), if_neg (by omega),
    if_pos (by omega)]
  simp only [List.cons.injEq, and_true]
  omega

theorem encodeChar_four (hb : 0xF0 ≤ b ∧ b ≤ 0xF4) (hb2 : 0x80 ≤ b2 ∧ b2 ≤ 0xBF)
    (hb3 : isContinuation b3 = true) (hb4 : isContinuation b4 = true)
    (hlong : b = 0xF0 → 0x90 ≤ b2) (hhigh : b = 0xF4 → b2 ≤ 0x8F) :
    encodeChar (Char.ofNat ((b % 8) * 262144 + (b2 % 64) * 4096 + (b3 % 64) * 64 + b4 % 64)) =
      [b, b2, b3, b4] := by
  simp only [isContinuation, Bool.and_eq_true, decide_eq_true_eq] at hb3 hb4
  rw [encodeChar_ofNat (by unfold Nat.isValidChar; omega), if_neg (by omega), if_neg (by omega),
    if_neg (by omega)]
  simp only [List.cons.injEq, and_true]
  omega

end Widths

/-- A character read at the front of some bytes is encoded by the bytes it was read from. -/
theorem encodeChar_of_front {b : Nat} {rest : List Nat} {c : Char} {k : Nat}
    (h : front b rest = (some c, k)) : (b :: rest).take k = encodeChar c := by
  unfold front at h
  split at h
  · next hb =>
    obtain ⟨hc, rfl⟩ := Prod.mk.inj h
    cases Option.some.inj hc
    rw [encodeChar_ofNat (Or.inl (by omega)), if_pos hb]
    rfl
  · split at h
    · next lo hi more b2 rest2 hshape =>
      obtain ⟨hlo, hhi, hcase⟩ := leadShape_eq_some hshape
      split at h
      · simp at h
      next hr =>
      have hr' : lo ≤ b2 ∧ b2 ≤ hi := by simpa using hr
      split at h
      · next hm =>
        obtain ⟨hc, rfl⟩ := Prod.mk.inj h
        cases Option.some.inj hc
        have hm' : more = 1 := by simpa using hm
        rw [encodeChar_two (by omega) (by omega)]
        rfl
      next hm =>
      split at h
      · next b3 rest3 =>
        split at h
        · simp at h
        next h3 =>
        have h3' : isContinuation b3 = true := by simpa using h3
        split at h
        · next hm2 =>
          obtain ⟨hc, rfl⟩ := Prod.mk.inj h
          cases Option.some.inj hc
          have hm' : more = 2 := by simpa using hm2
          rw [encodeChar_three (by omega) (by omega) h3' (by omega) (by omega)]
          rfl
        next hm2 =>
        split at h
        · next b4 tail =>
          split at h
          · simp at h
          next h4 =>
          obtain ⟨hc, rfl⟩ := Prod.mk.inj h
          cases Option.some.inj hc
          have hm1 : more ≠ 1 := by simpa using hm
          have hm' : more ≠ 2 := by simpa using hm2
          rw [encodeChar_four (by omega) (by omega) h3' (by simpa using h4) (by omega) (by omega)]
          rfl
        · simp at h
      · simp at h
    · simp at h

/-- Bytes that decode to characters are the encoding of those characters. -/
theorem flatMap_encodeChar_of_pieces : ∀ (bs : List Nat) (cs : List Char),
    pieces bs = cs.map some → cs.flatMap encodeChar = bs
  | [], cs, h => by
    rw [pieces] at h
    cases cs with
    | nil => rfl
    | cons c cs => simp at h
  | b :: rest, cs, h => by
    rw [pieces.eq_2] at h
    cases cs with
    | nil => simp at h
    | cons c cs =>
      simp only [List.map_cons, List.cons.injEq] at h
      obtain ⟨hc, hrest⟩ := h
      have hfront : front b rest = (some c, (front b rest).2) := Prod.ext hc rfl
      have := one_le_front b rest
      rw [List.flatMap_cons, ← encodeChar_of_front hfront,
        flatMap_encodeChar_of_pieces _ cs hrest, List.take_append_drop]
termination_by bs => bs.length
decreasing_by simp; omega

theorem mapM_id_eq_some : ∀ {ps : List (Option Char)} {cs : List Char},
    ps.mapM id = some cs → ps = cs.map some
  | [], cs, h => by
    obtain rfl := Option.some.inj h
    rfl
  | p :: ps, cs, h => by
    simp only [List.mapM_cons, Option.bind_eq_bind, Option.bind_eq_some_iff, Option.pure_def,
      Option.some.injEq, id] at h
    obtain ⟨c, rfl, ds, hds, rfl⟩ := h
    rw [mapM_id_eq_some hds, List.map_cons]

/-- Bytes decode to a text exactly when they are its encoding. -/
theorem decode?_eq_some_iff {bs : List Nat} {s : String} : decode? bs = some s ↔ encode s = bs := by
  constructor
  · intro h
    rw [decode?] at h
    obtain ⟨cs, hcs, rfl⟩ := Option.map_eq_some_iff.1 h
    rw [encode, String.toList_ofList, flatMap_encodeChar_of_pieces bs cs (mapM_id_eq_some hcs)]
  · rintro rfl
    exact decode?_encode s

/-! ## Bytes of texts -/

/-- A byte below 128 in the encoding of a character is that character. -/
theorem toNat_of_mem_encodeChar {c : Char} {b : Nat} (hb : b ∈ encodeChar c) (hlt : b < 128) :
    c.toNat = b := by
  simp only [encodeChar] at hb
  split_ifs at hb <;> simp at hb <;> omega

theorem mem_of_mem_encode {t : String} {b : Nat} (hb : b ∈ encode t) (hlt : b < 128) :
    Char.ofNat b ∈ t.toList := by
  obtain ⟨c, hc, hbc⟩ := List.mem_flatMap.1 hb
  rw [← toNat_of_mem_encodeChar hbc hlt, Char.ofNat_toNat]
  exact hc

theorem lt_of_mem_encode {s : String} {b : Nat} (hb : b ∈ encode s) : b < 256 := by
  obtain ⟨c, -, hbc⟩ := List.mem_flatMap.1 hb
  have hv : c.toNat < 0xD800 ∨ (0xDFFF < c.toNat ∧ c.toNat < 0x110000) := c.valid
  simp only [encodeChar] at hbc
  split_ifs at hbc <;> simp at hbc <;> omega

/-- ASCII characters are encoded one byte each, their code points. -/
theorem encode_of_ascii : ∀ {cs : List Char}, (∀ c ∈ cs, c.toNat < 128) →
    cs.flatMap encodeChar = cs.map Char.toNat
  | [], _ => rfl
  | c :: cs, h => by
    rw [List.flatMap_cons, List.map_cons, encode_of_ascii fun d hd => h d (List.mem_cons_of_mem c hd)]
    simp [encodeChar, h c List.mem_cons_self]

/-- ASCII bytes, read one character each, encode back to themselves. -/
theorem encode_ofList_ascii {bs : List Nat} (h : ∀ b ∈ bs, b < 128) :
    encode (String.ofList (bs.map Char.ofNat)) = bs := by
  have htoNat : ∀ b ∈ bs, (Char.ofNat b).toNat = b := fun b hb =>
    toNat_ofNat_of_isValidChar (Or.inl (by have := h b hb; omega))
  rw [encode, String.toList_ofList, encode_of_ascii, List.map_map]
  · exact (List.map_congr_left htoNat).trans (List.map_id bs)
  · simp only [List.mem_map]
    rintro _ ⟨b, hb, rfl⟩
    rw [htoNat b hb]
    exact h b hb

/-- A text takes at most four bytes a character. -/
theorem byteLength_ofList_le (cs : List Char) : byteLength (String.ofList cs) ≤ 4 * cs.length := by
  induction cs with
  | nil => simp [byteLength]
  | cons c cs ih =>
    rw [byteLength] at ih ⊢
    rw [String.ofList_cons, String.utf8ByteSize_append, String.utf8ByteSize_singleton,
      List.length_cons]
    rcases Char.utf8Size_eq c with h | h | h | h <;> omega

end TrackerSearch.Utf8
