import SignatureLint.Proofs.Text.Utf8

/-!
# Strict and lenient readings

Octets that can be read strictly are those of the text that is read.  The lenient reading puts a
character in the place of each ill-formed run that is as wide as the longest such run.  It is
therefore never narrower than the octets that were read, and wider than octets that begin inside a
character.
-/

namespace SignatureLint.Utf8

/-! ## Strict readings -/

theorem eq_map_char_of_strictFrom {offset : Nat} {pieces : List Piece} {text : List Char}
    (h : strictFrom offset pieces = .ok text) : pieces = text.map .char := by
  induction pieces generalizing offset text with
  | nil =>
      cases h
      rfl
  | cons piece rest ih =>
      cases piece with
      | malformed fault first length => cases h
      | char c =>
          rw [strictFrom] at h
          cases more : strictFrom (offset + charWidth c) rest with
          | error error =>
              rw [more] at h
              cases h
          | ok characters =>
              rw [more] at h
              cases h
              rw [List.map_cons, ih more]

theorem decodeLenient_of_decode {octets : List UInt8} {text : List Char}
    (h : decode octets = .ok text) : decodeLenient octets = text := by
  rw [decodeLenient, eq_map_char_of_strictFrom h, List.map_map]
  exact List.map_id' text

theorem encode_of_pieces {octets : List UInt8} {text : List Char}
    (h : pieces octets = text.map .char) : encode text = octets := by
  induction octets using pieces.induct generalizing text with
  | case1 =>
      rw [pieces] at h
      rw [List.map_eq_nil_iff.mp h.symm]
      rfl
  | case2 first rest piece =>
      rename_i ih
      rw [pieces] at h
      obtain ⟨c, characters, rfl, here, more⟩ := List.map_eq_cons_iff.mp h.symm
      rw [show piece = .char c from here.symm] at ih
      rw [← here] at more
      rw [encode_cons, ih more.symm, encodeChar_append_of_readPiece here.symm]

theorem encode_of_decode {octets : List UInt8} {text : List Char} (h : decode octets = .ok text) :
    encode text = octets :=
  encode_of_pieces (eq_map_char_of_strictFrom h)

theorem decode_eq_ok_iff {octets : List UInt8} {text : List Char} :
    decode octets = .ok text ↔ encode text = octets :=
  ⟨encode_of_decode, fun h => h ▸ decode_encode text⟩

theorem exists_decode_error_iff {octets : List UInt8} :
    (∃ error, decode octets = .error error) ↔ ∀ text, encode text ≠ octets := by
  simp only [ne_eq, ← decode_eq_ok_iff]
  cases decode octets with
  | error error => exact iff_of_true ⟨error, rfl⟩ fun _ => nofun
  | ok text => exact iff_of_false nofun fun none => none text rfl

theorem exists_decode_withoutMark {octets : List UInt8} {text : List Char}
    (h : decode octets = .ok text) : ∃ bare, decode (withoutMark octets) = .ok bare := by
  rw [← encode_of_decode h]
  by_cases marked : text.head? = some '\uFEFF'
  · obtain ⟨rest, rfl⟩ := List.head?_eq_some_iff.mp marked
    have split : encode ('\uFEFF' :: rest) = byteOrderMark ++ encode rest := by
      rw [byteOrderMark_eq, ← encode_append]
      rfl
    rw [split, withoutMark_append]
    exact ⟨rest, decode_encode rest⟩
  · rw [withoutMark_encode marked]
    exact ⟨text, decode_encode text⟩

/-! ## Places -/

theorem take_width_append (front back : List Char) :
    (encode (front ++ back)).take (width front) = encode front := by
  rw [encode_append, ← length_encode, List.take_left]

theorem drop_width_append (front back : List Char) :
    (encode (front ++ back)).drop (width front) = encode back := by
  rw [encode_append, ← length_encode, List.drop_left]

/-- Each place is between two characters or inside of one. -/
theorem exists_front_or_continues (text : List Char) {count : Nat} (inside : count ≤ width text) :
    (∃ front, front <+: text ∧ width front = count) ∨
      ∃ b rest, (encode text).drop count = b :: rest ∧ Continues b := by
  induction text generalizing count with
  | nil =>
      have start : count = 0 := Nat.le_zero.mp inside
      exact .inl ⟨[], List.prefix_refl [], start.symm⟩
  | cons c rest ih =>
      obtain ⟨first, tail, octets, -, continues⟩ := encodeChar_shape c
      have size : charWidth c = tail.length + 1 := by
        rw [← length_encodeChar, octets, List.length_cons]
      rw [width] at inside
      -- the count ends in the octets of the first character, or behind them
      rcases Nat.lt_or_ge count (charWidth c) with short | long
      · cases count with
        | zero => exact .inl ⟨[], List.nil_prefix, rfl⟩
        | succ count =>
            obtain ⟨b, more, dropped⟩ := List.exists_cons_of_ne_nil
              (List.ne_nil_of_length_pos (l := tail.drop count) (by rw [List.length_drop]; omega))
            have member : b ∈ tail := List.mem_of_mem_drop (dropped ▸ List.mem_cons_self)
            refine .inr ⟨b, more ++ encode rest, ?_, continues b member⟩
            rw [encode_cons, octets, List.cons_append, List.drop_succ_cons,
              List.drop_append_of_le_length (by omega), dropped, List.cons_append]
      · rcases @ih (count - charWidth c) (by omega) with ⟨front, shape, wide⟩ | cut
        · refine .inl ⟨c :: front, List.cons_prefix_cons.mpr ⟨rfl, shape⟩, ?_⟩
          rw [width, wide]
          omega
        · refine .inr ?_
          have dropped : (encode (c :: rest)).drop count =
              (encode rest).drop (count - charWidth c) := by
            rw [encode_cons, List.drop_append, length_encodeChar,
              List.drop_eq_nil_of_le (by rw [length_encodeChar]; omega), List.nil_append]
          rwa [dropped]

theorem front_of_take {text front : List Char} {count : Nat} (inside : count ≤ width text)
    (h : (encode text).take count = encode front) : front <+: text ∧ width front = count := by
  have whole : encode text = encode front ++ (encode text).drop count := by
    rw [← h, List.take_append_drop]
  obtain ⟨rest, shape, -⟩ := eq_append_of_encode_eq_append whole
  have size := congrArg List.length h
  rw [List.length_take, length_encode, length_encode, Nat.min_eq_left inside] at size
  exact ⟨⟨rest, shape.symm⟩, size.symm⟩

/-! ## Lenient readings -/

theorem charWidth_replacement : charWidth '\uFFFD' = 3 := by
  decide

theorem missing_le_of_lead? {b : UInt8} {missing code : Nat} {low high : UInt8}
    (h : lead? b = some (missing, code, low, high)) : missing ≤ 3 := by
  unfold lead? at h
  grind

theorem length_of_readTail {first octet : UInt8} {missing taken code length : Nat}
    {low high : UInt8} {octets : List UInt8} {fault : Fault}
    (h : readTail first missing taken code low high octets = .malformed fault octet length) :
    taken ≤ length ∧ length < taken + missing := by
  induction missing generalizing taken code low high octets with
  | zero =>
      rw [readTail_zero] at h
      cases h
  | succ missing ih =>
      cases octets with
      | nil =>
          cases h
          omega
      | cons b rest =>
          rw [readTail] at h
          split at h
          · have := ih h
            omega
          · cases h
            omega

theorem length_readPiece (first : UInt8) (rest : List UInt8) :
    1 ≤ (readPiece first rest).length ∧
      (readPiece first rest).length ≤ charWidth (readPiece first rest).display := by
  cases read : readPiece first rest with
  | char c => exact ⟨charWidth_pos c, Nat.le_refl _⟩
  | malformed fault octet length =>
      have wide : charWidth (Piece.malformed fault octet length).display = 3 :=
        charWidth_replacement
      rw [wide, Piece.length]
      unfold readPiece at read
      split at read
      · cases read
        decide
      · rename_i missing code low high lead
        have := missing_le_of_lead? lead
        have := length_of_readTail read
        omega

theorem width_decodeLenient_cons (first : UInt8) (rest : List UInt8) :
    width (decodeLenient (first :: rest)) = charWidth (readPiece first rest).display +
      width (decodeLenient (rest.drop ((readPiece first rest).length - 1))) := by
  rw [decodeLenient, pieces, List.map_cons, width, decodeLenient]

theorem length_le_width_decodeLenient (octets : List UInt8) :
    octets.length ≤ width (decodeLenient octets) := by
  induction octets using pieces.induct with
  | case1 => exact Nat.zero_le _
  | case2 first rest piece ih =>
      obtain ⟨filled, wide⟩ := length_readPiece first rest
      rw [width_decodeLenient_cons, List.length_cons]
      rw [List.length_drop] at ih
      simp only [piece] at ih
      omega

theorem length_lt_width_of_continues {b : UInt8} (continues : Continues b) (rest : List UInt8) :
    (b :: rest).length < width (decodeLenient (b :: rest)) := by
  have broken : readPiece b rest = .malformed .invalidStart b 1 := by
    obtain ⟨least, most⟩ := continues
    rw [readPiece, lead?_eq, if_neg (by omega), if_pos (by omega)]
  have wide : charWidth (Piece.malformed .invalidStart b 1).display = 3 := charWidth_replacement
  have others := length_le_width_decodeLenient rest
  rw [width_decodeLenient_cons, broken, wide, Piece.length, Nat.sub_self, List.drop_zero,
    List.length_cons]
  omega

end SignatureLint.Utf8
