import SignatureLint.Text.Utf8

/-!
# Text and its octets

Writing a text and reading it again gives the text, by either reading.  A
sequence of octets whose lenient reading holds no replacement character is
exactly what its reading writes.  No character begins inside another one, so
that a text found inside the octets of another one is a part of that text.
-/

namespace SignatureLint.Utf8

/-! ## Octets as numbers -/

theorem toNat_toUInt8 {n : Nat} (h : n < 256) : n.toUInt8.toNat = n := by
  simp [Nat.toUInt8, Nat.mod_eq_of_lt h]

theorem toUInt8_eq {n : Nat} {b : UInt8} (h : n = b.toNat) : n.toUInt8 = b := by
  subst h
  exact UInt8.toNat_inj.mp (toNat_toUInt8 b.toNat_lt)

theorem lead?_eq (b : UInt8) : lead? b =
    if b.toNat < 0x80 then some (0, b.toNat, 0x80, 0xBF)
    else if b.toNat < 0xC2 then none
    else if b.toNat < 0xE0 then some (1, b.toNat - 0xC0, 0x80, 0xBF)
    else if b.toNat = 0xE0 then some (2, 0, 0xA0, 0xBF)
    else if b.toNat = 0xED then some (2, 0xD, 0x80, 0x9F)
    else if b.toNat < 0xF0 then some (2, b.toNat - 0xE0, 0x80, 0xBF)
    else if b.toNat = 0xF0 then some (3, 0, 0x90, 0xBF)
    else if b.toNat < 0xF4 then some (3, b.toNat - 0xF0, 0x80, 0xBF)
    else if b.toNat = 0xF4 then some (3, 4, 0x80, 0x8F)
    else none := by
  simp only [lead?, UInt8.lt_iff_toNat_lt, ← UInt8.toNat_inj]
  rfl

theorem readTail_next (first : UInt8) (missing taken code : Nat) {low high : UInt8} (x : Nat)
    (rest : List UInt8) (atLeast : low.toNat ≤ 0x80 + x % 64)
    (atMost : 0x80 + x % 64 ≤ high.toNat) :
    readTail first (missing + 1) taken code low high ((0x80 + x % 64).toUInt8 :: rest) =
      readTail first missing (taken + 1) (code * 64 + x % 64) 0x80 0xBF rest := by
  have value : (0x80 + x % 64).toUInt8.toNat = 0x80 + x % 64 := toNat_toUInt8 (by omega)
  simp only [readTail, UInt8.le_iff_toNat_le, value, atLeast, atMost, decide_true, Bool.and_self,
    if_true, Nat.add_sub_cancel_left]

theorem readTail_zero (first : UInt8) (taken code : Nat) (low high : UInt8) (rest : List UInt8) :
    readTail first 0 taken code low high rest = .char (Char.ofNat code) := by
  unfold readTail
  rfl

theorem readTail_later (first : UInt8) (missing taken code x : Nat) (rest : List UInt8) :
    readTail first (missing + 1) taken code 0x80 0xBF ((0x80 + x % 64).toUInt8 :: rest) =
      readTail first missing (taken + 1) (code * 64 + x % 64) 0x80 0xBF rest := by
  apply readTail_next
  · exact Nat.le_add_right _ _
  · show 0x80 + x % 64 ≤ 0xBF
    omega

theorem exists_of_readTail_succ {first : UInt8} {missing taken code : Nat} {low high : UInt8}
    {octets : List UInt8} {c : Char}
    (h : readTail first (missing + 1) taken code low high octets = .char c) :
    ∃ b rest, octets = b :: rest ∧ low.toNat ≤ b.toNat ∧ b.toNat ≤ high.toNat ∧
      readTail first missing (taken + 1) (code * 64 + (b.toNat - 0x80)) 0x80 0xBF rest =
        .char c := by
  cases octets with
  | nil => cases h
  | cons b rest =>
      simp only [readTail] at h
      split at h
      · rename_i inRange
        simp only [Bool.and_eq_true, decide_eq_true_eq, UInt8.le_iff_toNat_le] at inRange
        exact ⟨b, rest, rfl, inRange.1, inRange.2, h⟩
      · cases h

/-! ## One character -/

theorem toNat_ofNat {n : Nat} (valid : n.isValidChar) : (Char.ofNat n).toNat = n := by
  rw [Char.ofNat, dif_pos valid]
  rfl

@[simp] theorem length_encodeChar (c : Char) : (encodeChar c).length = charWidth c := by
  unfold encodeChar charWidth
  dsimp only
  split
  · rfl
  · split
    · rfl
    · split <;> rfl

theorem charWidth_pos (c : Char) : 0 < charWidth c := by
  unfold charWidth
  split
  · decide
  · split
    · decide
    · split <;> decide

theorem readPiece_one {n : Nat} (most : n < 0x80) (rest : List UInt8) :
    readPiece n.toUInt8 rest = .char (Char.ofNat n) := by
  rw [readPiece, lead?_eq, toNat_toUInt8 (by omega), if_pos (by omega)]
  exact readTail_zero ..

theorem readPiece_two {n : Nat} (least : 0x80 ≤ n) (most : n < 0x800) (rest : List UInt8) :
    readPiece (0xC0 + n / 64).toUInt8 ((0x80 + n % 64).toUInt8 :: rest) =
      .char (Char.ofNat n) := by
  have code : (0xC0 + n / 64 - 0xC0) * 64 + n % 64 = n := by omega
  rw [readPiece, lead?_eq, toNat_toUInt8 (by omega), if_neg (by omega), if_neg (by omega),
    if_pos (by omega)]
  simp only [readTail_later, readTail_zero, code]

theorem readPiece_three {n : Nat} (least : 0x800 ≤ n) (most : n < 0x10000)
    (valid : n < 0xD800 ∨ 0xDFFF < n) (rest : List UInt8) :
    readPiece (0xE0 + n / 4096).toUInt8
      ((0x80 + n / 64 % 64).toUInt8 :: (0x80 + n % 64).toUInt8 :: rest) =
        .char (Char.ofNat n) := by
  rw [readPiece, lead?_eq, toNat_toUInt8 (by omega), if_neg (by omega), if_neg (by omega),
    if_neg (by omega)]
  by_cases low : n / 4096 = 0
  · have code : (0 * 64 + n / 64 % 64) * 64 + n % 64 = n := by omega
    rw [if_pos (by omega)]
    dsimp only
    rw [readTail_next _ _ _ _ _ _ (show 0xA0 ≤ _ by omega) (show _ ≤ 0xBF by omega)]
    simp only [readTail_later, readTail_zero, code]
  · by_cases high : n / 4096 = 13
    · have code : (0xD * 64 + n / 64 % 64) * 64 + n % 64 = n := by omega
      rw [if_neg (by omega), if_pos (by omega)]
      dsimp only
      rw [readTail_next _ _ _ _ _ _ (show 0x80 ≤ _ by omega) (show _ ≤ 0x9F by omega)]
      simp only [readTail_later, readTail_zero, code]
    · have code : ((0xE0 + n / 4096 - 0xE0) * 64 + n / 64 % 64) * 64 + n % 64 = n := by omega
      rw [if_neg (by omega), if_neg (by omega), if_pos (by omega)]
      simp only [readTail_later, readTail_zero, code]

theorem readPiece_four {n : Nat} (least : 0x10000 ≤ n) (most : n < 0x110000)
    (rest : List UInt8) :
    readPiece (0xF0 + n / 262144).toUInt8
      ((0x80 + n / 4096 % 64).toUInt8 :: (0x80 + n / 64 % 64).toUInt8 ::
        (0x80 + n % 64).toUInt8 :: rest) =
          .char (Char.ofNat n) := by
  rw [readPiece, lead?_eq, toNat_toUInt8 (by omega), if_neg (by omega), if_neg (by omega),
    if_neg (by omega), if_neg (by omega), if_neg (by omega), if_neg (by omega)]
  by_cases low : n / 262144 = 0
  · have code : ((0 * 64 + n / 4096 % 64) * 64 + n / 64 % 64) * 64 + n % 64 = n := by omega
    rw [if_pos (by omega)]
    dsimp only
    rw [readTail_next _ _ _ _ _ _ (show 0x90 ≤ _ by omega) (show _ ≤ 0xBF by omega)]
    simp only [readTail_later, readTail_zero, code]
  · by_cases high : n / 262144 = 4
    · have code : ((4 * 64 + n / 4096 % 64) * 64 + n / 64 % 64) * 64 + n % 64 = n := by omega
      rw [if_neg (by omega), if_neg (by omega), if_pos (by omega)]
      dsimp only
      rw [readTail_next _ _ _ _ _ _ (show 0x80 ≤ _ by omega) (show _ ≤ 0x8F by omega)]
      simp only [readTail_later, readTail_zero, code]
    · have code : (((0xF0 + n / 262144 - 0xF0) * 64 + n / 4096 % 64) * 64 + n / 64 % 64) * 64 +
          n % 64 = n := by omega
      rw [if_neg (by omega), if_pos (by omega)]
      simp only [readTail_later, readTail_zero, code]

theorem readPiece_of_encodeChar {c : Char} {first : UInt8} {tail : List UInt8}
    (h : encodeChar c = first :: tail) (rest : List UInt8) :
    readPiece first (tail ++ rest) = .char c := by
  have valid : c.toNat < 0xD800 ∨ 0xDFFF < c.toNat ∧ c.toNat < 0x110000 := c.valid
  have same : Char.ofNat c.toNat = c := Char.ofNat_toNat c
  unfold encodeChar at h
  dsimp only at h
  rw [← same]
  split at h
  · obtain ⟨rfl, rfl⟩ := List.cons.inj h
    exact readPiece_one (by omega) rest
  · split at h
    · obtain ⟨rfl, rfl⟩ := List.cons.inj h
      exact readPiece_two (by omega) (by omega) rest
    · split at h
      · obtain ⟨rfl, rfl⟩ := List.cons.inj h
        exact readPiece_three (by omega) (by omega) (by omega) rest
      · obtain ⟨rfl, rfl⟩ := List.cons.inj h
        exact readPiece_four (by omega) (by omega) rest

theorem encodeChar_ofNat_one {n : Nat} (most : n < 0x80) :
    encodeChar (Char.ofNat n) = [n.toUInt8] := by
  rw [encodeChar, toNat_ofNat (Or.inl (by omega)), if_pos most]

theorem encodeChar_ofNat_two {n : Nat} (least : 0x80 ≤ n) (most : n < 0x800) :
    encodeChar (Char.ofNat n) = [(0xC0 + n / 64).toUInt8, (0x80 + n % 64).toUInt8] := by
  rw [encodeChar, toNat_ofNat (Or.inl (by omega)), if_neg (by omega), if_pos most]

theorem encodeChar_ofNat_three {n : Nat} (least : 0x800 ≤ n) (most : n < 0x10000)
    (valid : n.isValidChar) :
    encodeChar (Char.ofNat n) =
      [(0xE0 + n / 4096).toUInt8, (0x80 + n / 64 % 64).toUInt8, (0x80 + n % 64).toUInt8] := by
  rw [encodeChar, toNat_ofNat valid, if_neg (by omega), if_neg (by omega), if_pos most]

theorem encodeChar_ofNat_four {n : Nat} (least : 0x10000 ≤ n) (most : n < 0x110000) :
    encodeChar (Char.ofNat n) =
      [(0xF0 + n / 262144).toUInt8, (0x80 + n / 4096 % 64).toUInt8,
        (0x80 + n / 64 % 64).toUInt8, (0x80 + n % 64).toUInt8] := by
  rw [encodeChar, toNat_ofNat (Or.inr (by omega)), if_neg (by omega), if_neg (by omega),
    if_neg (by omega)]

theorem encodeChar_of_readTail_one {first : UInt8} {payload : Nat} {rest : List UInt8} {c : Char}
    (lead : first.toNat = 0xC0 + payload) (least : 2 ≤ payload) (most : payload < 32)
    (h : readTail first 1 1 payload 0x80 0xBF rest = .char c) :
    ∃ tail more, rest = tail ++ more ∧ encodeChar c = first :: tail := by
  obtain ⟨b, more, rfl, low, high, h⟩ := exists_of_readTail_succ h
  obtain rfl := Piece.char.inj ((readTail_zero ..).symm.trans h)
  change 0x80 ≤ b.toNat at low
  change b.toNat ≤ 0xBF at high
  refine ⟨[b], more, rfl, ?_⟩
  rw [encodeChar_ofNat_two (by omega) (by omega), toUInt8_eq (b := first) (by omega),
    toUInt8_eq (b := b) (by omega)]

theorem encodeChar_of_readTail_two {first low high : UInt8} {payload : Nat} {rest : List UInt8}
    {c : Char} (lead : first.toNat = 0xE0 + payload)
    (range : payload = 0 ∧ low.toNat = 0xA0 ∧ high.toNat = 0xBF ∨
      payload = 13 ∧ low.toNat = 0x80 ∧ high.toNat = 0x9F ∨
      0 < payload ∧ payload < 16 ∧ payload ≠ 13 ∧ low.toNat = 0x80 ∧ high.toNat = 0xBF)
    (h : readTail first 2 1 payload low high rest = .char c) :
    ∃ tail more, rest = tail ++ more ∧ encodeChar c = first :: tail := by
  obtain ⟨b₁, more₁, rfl, low₁, high₁, h⟩ := exists_of_readTail_succ h
  obtain ⟨b₂, more₂, rfl, low₂, high₂, h⟩ := exists_of_readTail_succ h
  obtain rfl := Piece.char.inj ((readTail_zero ..).symm.trans h)
  change 0x80 ≤ b₂.toNat at low₂
  change b₂.toNat ≤ 0xBF at high₂
  refine ⟨[b₁, b₂], more₂, rfl, ?_⟩
  rw [encodeChar_ofNat_three (by omega) (by omega) (by unfold Nat.isValidChar; omega),
    toUInt8_eq (b := first) (by omega), toUInt8_eq (b := b₁) (by omega),
    toUInt8_eq (b := b₂) (by omega)]

theorem encodeChar_of_readTail_three {first low high : UInt8} {payload : Nat} {rest : List UInt8}
    {c : Char} (lead : first.toNat = 0xF0 + payload)
    (range : payload = 0 ∧ low.toNat = 0x90 ∧ high.toNat = 0xBF ∨
      payload = 4 ∧ low.toNat = 0x80 ∧ high.toNat = 0x8F ∨
      0 < payload ∧ payload < 4 ∧ low.toNat = 0x80 ∧ high.toNat = 0xBF)
    (h : readTail first 3 1 payload low high rest = .char c) :
    ∃ tail more, rest = tail ++ more ∧ encodeChar c = first :: tail := by
  obtain ⟨b₁, more₁, rfl, low₁, high₁, h⟩ := exists_of_readTail_succ h
  obtain ⟨b₂, more₂, rfl, low₂, high₂, h⟩ := exists_of_readTail_succ h
  obtain ⟨b₃, more₃, rfl, low₃, high₃, h⟩ := exists_of_readTail_succ h
  obtain rfl := Piece.char.inj ((readTail_zero ..).symm.trans h)
  change 0x80 ≤ b₂.toNat at low₂
  change b₂.toNat ≤ 0xBF at high₂
  change 0x80 ≤ b₃.toNat at low₃
  change b₃.toNat ≤ 0xBF at high₃
  refine ⟨[b₁, b₂, b₃], more₃, rfl, ?_⟩
  rw [encodeChar_ofNat_four (by omega) (by omega), toUInt8_eq (b := first) (by omega),
    toUInt8_eq (b := b₁) (by omega), toUInt8_eq (b := b₂) (by omega),
    toUInt8_eq (b := b₃) (by omega)]

/-- Octets that are read as a character are its octets. -/
theorem encodeChar_of_readPiece {first : UInt8} {rest : List UInt8} {c : Char}
    (h : readPiece first rest = .char c) :
    ∃ tail more, rest = tail ++ more ∧ encodeChar c = first :: tail := by
  have limit := first.toNat_lt
  rw [readPiece, lead?_eq] at h
  -- the bounds of the first octet, from below; each range fixes how many octets follow and which
  -- of them are allowed
  by_cases one : first.toNat < 0x80
  · rw [if_pos one] at h
    dsimp only at h
    rw [readTail_zero] at h
    cases h
    refine ⟨[], rest, rfl, ?_⟩
    rw [encodeChar_ofNat_one one, toUInt8_eq rfl]
  rw [if_neg one] at h
  by_cases none : first.toNat < 0xC2
  · rw [if_pos none] at h
    cases h
  rw [if_neg none] at h
  by_cases two : first.toNat < 0xE0
  · rw [if_pos two] at h
    exact encodeChar_of_readTail_one (by omega) (by omega) (by omega) h
  rw [if_neg two] at h
  by_cases three : first.toNat = 0xE0
  · rw [if_pos three] at h
    exact encodeChar_of_readTail_two (by omega) (Or.inl ⟨rfl, rfl, rfl⟩) h
  rw [if_neg three] at h
  by_cases three' : first.toNat = 0xED
  · rw [if_pos three'] at h
    exact encodeChar_of_readTail_two (by omega) (Or.inr (Or.inl ⟨rfl, rfl, rfl⟩)) h
  rw [if_neg three'] at h
  by_cases three'' : first.toNat < 0xF0
  · rw [if_pos three''] at h
    exact encodeChar_of_readTail_two (by omega)
      (Or.inr (Or.inr ⟨by omega, by omega, by omega, rfl, rfl⟩)) h
  rw [if_neg three''] at h
  by_cases four : first.toNat = 0xF0
  · rw [if_pos four] at h
    exact encodeChar_of_readTail_three (by omega) (Or.inl ⟨rfl, rfl, rfl⟩) h
  rw [if_neg four] at h
  by_cases four' : first.toNat < 0xF4
  · rw [if_pos four'] at h
    exact encodeChar_of_readTail_three (by omega)
      (Or.inr (Or.inr ⟨by omega, by omega, rfl, rfl⟩)) h
  rw [if_neg four'] at h
  by_cases four'' : first.toNat = 0xF4
  · rw [if_pos four''] at h
    exact encodeChar_of_readTail_three (by omega) (Or.inr (Or.inl ⟨rfl, rfl, rfl⟩)) h
  rw [if_neg four''] at h
  cases h

theorem encodeChar_append_of_readPiece {first : UInt8} {rest : List UInt8} {c : Char}
    (h : readPiece first rest = .char c) :
    encodeChar c ++ rest.drop ((Piece.char c).length - 1) = first :: rest := by
  obtain ⟨tail, more, rfl, octets⟩ := encodeChar_of_readPiece h
  have size : (Piece.char c).length - 1 = tail.length := by
    rw [Piece.length, ← length_encodeChar, octets, List.length_cons, Nat.add_sub_cancel]
  rw [size, List.drop_left, octets, List.cons_append]

/-! ## Texts -/

@[simp] theorem encode_nil : encode [] = [] := rfl

@[simp] theorem encode_cons (c : Char) (rest : List Char) :
    encode (c :: rest) = encodeChar c ++ encode rest := List.flatMap_cons

@[simp] theorem encode_append (left right : List Char) :
    encode (left ++ right) = encode left ++ encode right := List.flatMap_append

@[simp] theorem width_append (left right : List Char) :
    width (left ++ right) = width left + width right := by
  induction left with
  | nil => simp [width]
  | cons c rest ih =>
      simp only [List.cons_append, width, ih]
      omega

@[simp] theorem length_encode (text : List Char) : (encode text).length = width text := by
  induction text with
  | nil => rfl
  | cons c rest ih => simp [width, ih]

theorem width_take_mono (text : List Char) {count count' : Nat} (h : count ≤ count') :
    width (text.take count) ≤ width (text.take count') := by
  have front : text.take count' =
      text.take count ++ (text.take count').drop count := by
    conv => lhs; rw [← List.take_append_drop count (text.take count')]
    rw [List.take_take, Nat.min_eq_left h]
  rw [front, width_append]
  exact Nat.le_add_right _ _

theorem width_pos {text : List Char} (h : text ≠ []) : 0 < width text := by
  cases text with
  | nil => exact absurd rfl h
  | cons c rest =>
      have := charWidth_pos c
      simp only [width]
      omega

theorem pieces_encodeChar_append (c : Char) (rest : List UInt8) :
    pieces (encodeChar c ++ rest) = .char c :: pieces rest := by
  cases octets : encodeChar c with
  | nil =>
      have := charWidth_pos c
      rw [← length_encodeChar, octets] at this
      exact absurd this (Nat.lt_irrefl 0)
  | cons first tail =>
      have size : charWidth c - 1 = tail.length := by
        rw [← length_encodeChar, octets, List.length_cons, Nat.add_sub_cancel]
      rw [List.cons_append, pieces, readPiece_of_encodeChar octets]
      simp only [Piece.length, size, List.drop_left]

theorem pieces_encode_append (text : List Char) (rest : List UInt8) :
    pieces (encode text ++ rest) = text.map .char ++ pieces rest := by
  induction text with
  | nil => rfl
  | cons c more ih =>
      rw [encode_cons, List.append_assoc, pieces_encodeChar_append, ih]
      rfl

theorem pieces_encode (text : List Char) : pieces (encode text) = text.map .char := by
  have parts := pieces_encode_append text []
  rw [List.append_nil] at parts
  rw [parts, pieces, List.append_nil]

theorem strictFrom_chars (offset : Nat) (text : List Char) :
    strictFrom offset (text.map .char) = .ok text := by
  induction text generalizing offset with
  | nil => rfl
  | cons c rest ih =>
      rw [List.map_cons, strictFrom, ih]
      rfl

theorem decode_encode (text : List Char) : decode (encode text) = .ok text := by
  rw [decode, pieces_encode, strictFrom_chars]

theorem decodeLenient_encode (text : List Char) : decodeLenient (encode text) = text := by
  rw [decodeLenient, pieces_encode, List.map_map]
  exact List.map_id' text

theorem decodeLenient_encodeChar_append (c : Char) (rest : List UInt8) :
    decodeLenient (encodeChar c ++ rest) = c :: decodeLenient rest := by
  rw [decodeLenient, pieces_encodeChar_append]
  rfl

theorem encode_decodeLenient {octets : List UInt8} (h : '\uFFFD' ∉ decodeLenient octets) :
    encode (decodeLenient octets) = octets := by
  induction octets using pieces.induct with
  | case1 =>
      rw [decodeLenient, pieces]
      rfl
  | case2 first rest piece ih =>
      cases read : readPiece first rest with
      | malformed fault octet length =>
          rw [decodeLenient, pieces, read] at h
          exact absurd List.mem_cons_self h
      | char c =>
          rw [show piece = .char c from read] at ih
          rw [← encodeChar_append_of_readPiece read, decodeLenient_encodeChar_append] at h ⊢
          rw [encode_cons, ih fun found => h (List.mem_cons_of_mem c found)]

/-! ## Where characters begin -/

/-- An octet that continues a character. -/
def Continues (b : UInt8) : Prop :=
  0x80 ≤ b.toNat ∧ b.toNat < 0xC0

/-- The first octet of a character begins it, and the others continue it. -/
theorem encodeChar_shape (c : Char) :
    ∃ first tail, encodeChar c = first :: tail ∧ ¬Continues first ∧ ∀ b ∈ tail, Continues b := by
  have next (x : Nat) : Continues (0x80 + x % 64).toUInt8 := by
    rw [Continues, toNat_toUInt8 (by omega)]
    omega
  have valid : c.toNat < 0xD800 ∨ 0xDFFF < c.toNat ∧ c.toNat < 0x110000 := c.valid
  unfold encodeChar Continues
  dsimp only
  split
  · refine ⟨_, _, rfl, ?_, List.forall_mem_nil _⟩
    rw [toNat_toUInt8 (by omega)]
    omega
  · split
    · refine ⟨_, _, rfl, ?_, List.forall_mem_singleton.mpr (next _)⟩
      rw [toNat_toUInt8 (by omega)]
      omega
    · split
      · refine ⟨_, _, rfl, ?_, List.forall_mem_cons.mpr
          ⟨next _, List.forall_mem_singleton.mpr (next _)⟩⟩
        rw [toNat_toUInt8 (by omega)]
        omega
      · refine ⟨_, _, rfl, ?_, List.forall_mem_cons.mpr ⟨next _, List.forall_mem_cons.mpr
          ⟨next _, List.forall_mem_singleton.mpr (next _)⟩⟩⟩
        rw [toNat_toUInt8 (by omega)]
        omega

theorem eq_append_of_encode_eq_append {source text : List Char} {after : List UInt8}
    (h : encode source = encode text ++ after) :
    ∃ rest, source = text ++ rest ∧ encode rest = after := by
  have parts := congrArg pieces h
  rw [pieces_encode, pieces_encode_append, List.map_eq_append_iff] at parts
  obtain ⟨front, rest, rfl, same, -⟩ := parts
  have front : front = text := List.map_inj_right (fun _ _ => Piece.char.inj) |>.mp same
  subst front
  rw [encode_append] at h
  exact ⟨rest, rfl, List.append_cancel_left h⟩

/-- A text that is found in the octets of another one is a part of that text. -/
theorem eq_append_of_encode_eq_append_append {source text : List Char}
    {before after : List UInt8} (nonempty : text ≠ [])
    (h : encode source = before ++ encode text ++ after) :
    ∃ pre post, source = pre ++ text ++ post ∧ encode pre = before ∧ encode post = after := by
  induction source generalizing before with
  | nil =>
      have size := congrArg List.length h
      have := width_pos nonempty
      simp only [encode_nil, List.length_nil, List.length_append, length_encode] at size
      omega
  | cons c rest ih =>
      cases before with
      | nil =>
          obtain ⟨post, whole, octets⟩ := eq_append_of_encode_eq_append h
          exact ⟨[], post, whole, rfl, octets⟩
      | cons first more =>
          rw [encode_cons, List.append_assoc] at h
          -- either the first character lies before the text, or the text begins within its octets
          rcases List.append_eq_append_iff.mp h with ⟨left, whole, parts⟩ | ⟨left, whole, parts⟩
          · rw [← List.append_assoc] at parts
            obtain ⟨pre, post, rfl, octets, after⟩ := ih parts
            refine ⟨c :: pre, post, rfl, ?_, after⟩
            rw [encode_cons, octets, whole]
          · -- the text would begin inside a character
            cases left with
            | nil =>
                rw [List.nil_append] at parts
                obtain ⟨post, same, octets⟩ := eq_append_of_encode_eq_append parts.symm
                refine ⟨[c], post, by rw [same]; rfl, ?_, octets⟩
                simpa using whole
            | cons b left =>
                obtain ⟨lead, tail, octets, -, later⟩ := encodeChar_shape c
                obtain ⟨t, more, rfl⟩ := List.exists_cons_of_ne_nil nonempty
                obtain ⟨lead', tail', octets', begins, -⟩ := encodeChar_shape t
                rw [encode_cons, octets'] at parts
                obtain ⟨rfl, -⟩ := List.cons.inj parts
                rw [octets] at whole
                obtain ⟨-, rfl⟩ := List.cons.inj whole
                exact absurd (later lead' (by simp)) begins

/-! ## The mark in front -/

variable {text : List Char}

theorem byteOrderMark_eq : byteOrderMark = encode ['\uFEFF'] := by
  decide

theorem head?_of_isPrefixOf (h : byteOrderMark.isPrefixOf (encode text) = true) :
    text.head? = some '\uFEFF' := by
  obtain ⟨rest, whole⟩ := List.isPrefixOf_iff_prefix.mp h
  rw [byteOrderMark_eq] at whole
  obtain ⟨more, rfl, -⟩ := eq_append_of_encode_eq_append whole.symm
  rfl

theorem splitMark_append (octets : List UInt8) :
    splitMark (byteOrderMark ++ octets) = (byteOrderMark, octets) := by
  rw [splitMark, if_pos (List.isPrefixOf_iff_prefix.mpr (List.prefix_append _ _))]
  rfl

theorem splitMark_encode (bare : text.head? ≠ some '\uFEFF') :
    splitMark (encode text) = ([], encode text) := by
  rw [splitMark, if_neg fun found => bare (head?_of_isPrefixOf found)]

theorem withoutMark_append (octets : List UInt8) :
    withoutMark (byteOrderMark ++ octets) = octets := by
  rw [withoutMark]
  split
  · rename_i short
    have size := (List.isPrefixOf_iff_prefix.mp short).length_le
    rw [List.length_append] at size
    have empty : octets.length = 0 := by omega
    exact (List.length_eq_zero_iff.mp empty).symm
  · rw [splitMark_append]

theorem withoutMark_encode (bare : text.head? ≠ some '\uFEFF') :
    withoutMark (encode text) = encode text := by
  rw [withoutMark]
  split
  · rename_i short
    obtain ⟨rest, whole⟩ := List.isPrefixOf_iff_prefix.mp short
    rw [byteOrderMark_eq] at whole
    obtain ⟨more, same, -⟩ := eq_append_of_encode_eq_append whole.symm
    cases text with
    | nil => rfl
    | cons c rest => exact absurd (congrArg some (List.cons.inj same).1.symm) bare
  · rw [splitMark_encode bare]

end SignatureLint.Utf8
