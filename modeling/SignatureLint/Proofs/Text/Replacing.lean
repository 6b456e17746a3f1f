import SignatureLint.Proofs.Text.Readings

/-!
# The lenient reading by its units

Octets are read leniently as units that follow one another.  A unit is a character, or a piece that
is ill-formed and is replaced: the longest front of what is left with which some character begins,
or a single octet with which none does.  There is one such reading of any octets.  A front of the
octets has as many units as begin in it, the last of which may be cut.
-/

namespace SignatureLint.Utf8

/-! ## Units -/

/-- Some character begins with these octets. -/
def Begins (front : List UInt8) : Prop :=
  ∃ c, front <+: encodeChar c

/-- No character stands in front of what follows, and this is the longest front that could have
become one, or the single octet that is passed over. -/
structure IllFormed (piece behind : List UInt8) : Prop where
  nonempty : piece ≠ []
  noCharacter : ∀ c, ¬encodeChar c <+: piece ++ behind
  begun : Begins piece ∨ ∃ b, piece = [b]
  longest : ∀ front, front <+: piece ++ behind → Begins front → front.length ≤ piece.length

/-- A unit in front of what follows, and the character that stands for it. -/
inductive Shows : List UInt8 → List UInt8 → Char → Prop where
  | character (c : Char) {behind : List UInt8} : Shows (encodeChar c) behind c
  | replaced {piece behind : List UInt8} (illFormed : IllFormed piece behind) :
      Shows piece behind '\uFFFD'

/-- Octets as the units that follow one another. -/
inductive Reads : List UInt8 → List (List UInt8 × Char) → Prop where
  | nil : Reads [] []
  | cons {piece behind : List UInt8} {c : Char} {rest : List (List UInt8 × Char)}
      (unit : Shows piece behind c) (later : Reads behind rest) :
      Reads (piece ++ behind) ((piece, c) :: rest)

/-- The places where the units begin. -/
def starts : List (List UInt8) → List Nat
  | [] => []
  | piece :: rest => 0 :: (starts rest).map (piece.length + ·)

/-- How many units begin before a place. -/
def begunBefore (place : Nat) (pieces : List (List UInt8)) : Nat :=
  ((starts pieces).filter (· < place)).length

/-! ## Fronts of characters -/

theorem Begins.front {front longer : List UInt8} (begins : Begins longer) (h : front <+: longer) :
    Begins front := by
  obtain ⟨c, whole⟩ := begins
  exact ⟨c, h.trans whole⟩

theorem encodeChar_ne_nil (c : Char) : encodeChar c ≠ [] := by
  intro empty
  have := charWidth_pos c
  rw [← length_encodeChar, empty] at this
  exact Nat.lt_irrefl 0 this

theorem eq_of_fronts {c d : Char} {octets : List UInt8} (first : encodeChar c <+: octets)
    (second : encodeChar d <+: octets) : c = d := by
  obtain ⟨more, whole⟩ := first
  obtain ⟨more', whole'⟩ := second
  have same := pieces_encodeChar_append c more
  rw [whole, ← whole', pieces_encodeChar_append] at same
  exact (Piece.char.inj (List.cons.inj same).1).symm

theorem low_le_high_of_lead? {b : UInt8} {missing code : Nat} {low high : UInt8}
    (h : lead? b = some (missing, code, low, high)) : low ≤ high := by
  unfold lead? at h
  grind

theorem exists_readTail_char (first : UInt8) {missing taken code : Nat} {low high : UInt8}
    (order : low ≤ high) :
    ∃ octets c, readTail first missing taken code low high octets = .char c := by
  induction missing generalizing taken code low high with
  | zero => exact ⟨[], _, readTail_zero ..⟩
  | succ missing ih =>
      obtain ⟨octets, c, read⟩ :=
        @ih (taken + 1) (code * 64 + (low.toNat - 0x80)) 0x80 0xBF (by decide)
      exact ⟨low :: octets, c, by simp [readTail, order, read]⟩

/-- The octets of an ill-formed run are those after which a character could still have followed.
The next octet rules it out. -/
theorem exists_of_readTail_malformed {first octet : UInt8} {missing taken code length : Nat}
    {low high : UInt8} {octets : List UInt8} {fault : Fault} (order : low ≤ high)
    (h : readTail first missing taken code low high octets = .malformed fault octet length) :
    ∃ kept behind, octets = kept ++ behind ∧ length = taken + kept.length ∧
      (∃ more c, readTail first missing taken code low high (kept ++ more) = .char c) ∧
      ∀ b rest, behind = b :: rest → ∀ more c,
        readTail first missing taken code low high (kept ++ b :: more) ≠ .char c := by
  induction missing generalizing taken code low high octets with
  | zero =>
      rw [readTail_zero] at h
      cases h
  | succ missing ih =>
      -- the octet is in its range and the rest fails, or it ends the sequence itself
      cases octets with
      | nil =>
          cases h
          exact ⟨[], [], rfl, rfl, exists_readTail_char first order, nofun⟩
      | cons b rest =>
          rw [readTail] at h
          split at h
          · rename_i inRange
            obtain ⟨kept, behind, rfl, rfl, possible, ruled⟩ := ih (by decide) h
            refine ⟨b :: kept, behind, rfl, ?_, ?_, ?_⟩
            · rw [List.length_cons]
              omega
            · simpa [readTail, inRange] using possible
            · simpa [readTail, inRange] using ruled
          · rename_i outside
            cases h
            refine ⟨[], b :: rest, rfl, rfl, exists_readTail_char first order, ?_⟩
            rintro _ _ same more c read
            obtain ⟨rfl, -⟩ := List.cons.inj same
            simp [readTail, outside] at read

theorem readPiece_of_front {c : Char} {first : UInt8} {rest : List UInt8}
    (h : encodeChar c <+: first :: rest) : readPiece first rest = .char c := by
  obtain ⟨b, tail, octets, -⟩ := encodeChar_shape c
  obtain ⟨more, whole⟩ := h
  rw [octets, List.cons_append] at whole
  obtain ⟨rfl, rfl⟩ := List.cons.inj whole
  exact readPiece_of_encodeChar octets more

theorem illFormed_singleton {first : UInt8} (rest : List UInt8) (unknown : lead? first = none) :
    IllFormed [first] rest := by
  have refused (octets : List UInt8) :
      readPiece first octets = .malformed .invalidStart first 1 := by
    rw [readPiece, unknown]
  have begunNot (front : List UInt8) : ¬Begins (first :: front) := by
    rintro ⟨c, tail, octets⟩
    have read := readPiece_of_encodeChar octets.symm []
    rw [refused] at read
    cases read
  constructor
  · exact List.cons_ne_nil _ _
  · intro c found
    have read := readPiece_of_front found
    rw [refused] at read
    cases read
  · exact .inr ⟨first, rfl⟩
  · intro front shape begins
    cases front with
    | nil => exact Nat.zero_le _
    | cons b front =>
        obtain ⟨more, whole⟩ := shape
        obtain ⟨rfl, -⟩ := List.cons.inj whole
        exact absurd begins (begunNot front)

/-- Octets that begin a character until the next one rules it out are passed over together. -/
theorem illFormed_cons {first : UInt8} {kept behind more : List UInt8} {c : Char}
    (none : ∀ d, ¬encodeChar d <+: first :: (kept ++ behind))
    (possible : readPiece first (kept ++ more) = .char c)
    (ruled : ∀ b rest, behind = b :: rest → ∀ more c,
      readPiece first (kept ++ b :: more) ≠ .char c) : IllFormed (first :: kept) behind := by
  constructor
  · exact List.cons_ne_nil _ _
  · exact none
  · obtain ⟨tail, others, whole, octets⟩ := encodeChar_of_readPiece possible
    refine .inl ⟨c, ?_⟩
    rw [octets, List.cons_prefix_cons]
    refine ⟨rfl, ?_⟩
    -- otherwise the character would be complete within what was kept
    rcases List.prefix_or_prefix_of_prefix (List.prefix_append kept more)
      (whole ▸ List.prefix_append tail others) with short | long
    · exact short
    · refine absurd ?_ (none c)
      rw [octets, List.cons_prefix_cons]
      exact ⟨rfl, long.trans (List.prefix_append kept behind)⟩
  · rintro front shape ⟨d, begins⟩
    rcases List.prefix_or_prefix_of_prefix shape (List.prefix_append (first :: kept) behind)
      with short | ⟨others, rfl⟩
    · exact short.length_le
    · cases others with
      | nil => exact Nat.le_of_eq (congrArg List.length (List.append_nil _))
      | cons b others =>
          rw [List.prefix_append_right_inj] at shape
          obtain ⟨rest, followed⟩ := shape
          obtain ⟨tail, octets⟩ := begins
          have whole : encodeChar d = first :: (kept ++ b :: (others ++ tail)) := by
            simpa using octets.symm
          exact absurd (readPiece_of_front (whole ▸ List.prefix_refl _))
            (ruled b (others ++ rest) followed.symm (others ++ tail) d)

/-- The first piece of octets is a unit. -/
theorem shows_readPiece (first : UInt8) (rest : List UInt8) :
    ∃ piece behind, first :: rest = piece ++ behind ∧
      behind = rest.drop ((readPiece first rest).length - 1) ∧
      Shows piece behind (readPiece first rest).display := by
  cases read : readPiece first rest with
  | char c =>
      exact ⟨encodeChar c, _, (encodeChar_append_of_readPiece read).symm, rfl, .character c⟩
  | malformed fault octet length =>
      have none (c : Char) : ¬encodeChar c <+: first :: rest := by
        intro found
        rw [readPiece_of_front found] at read
        cases read
      cases lead : lead? first with
      | none =>
          rw [readPiece, lead] at read
          cases read
          exact ⟨[first], rest, rfl, rfl, .replaced (illFormed_singleton rest lead)⟩
      | some announced =>
          obtain ⟨missing, code, low, high⟩ := announced
          have tail (octets : List UInt8) :
              readPiece first octets = readTail first missing 1 code low high octets := by
            rw [readPiece, lead]
          rw [tail] at read
          obtain ⟨kept, behind, rfl, rfl, ⟨more, c, possible⟩, ruled⟩ :=
            exists_of_readTail_malformed (low_le_high_of_lead? lead) read
          rw [← tail] at possible
          simp only [← tail] at ruled
          refine ⟨first :: kept, behind, rfl, ?_, .replaced (illFormed_cons none possible ruled)⟩
          rw [Piece.length, Nat.add_sub_cancel_left, List.drop_left]

/-! ## Readings -/

variable {octets : List UInt8} {reading reading' : List (List UInt8 × Char)}

theorem exists_reads (octets : List UInt8) :
    ∃ reading, Reads octets reading ∧ decodeLenient octets = reading.map (·.2) := by
  induction octets using pieces.induct with
  | case1 =>
      refine ⟨[], .nil, ?_⟩
      rw [decodeLenient, pieces]
      rfl
  | case2 first rest piece ih =>
      obtain ⟨here, behind, whole, left, unit⟩ := shows_readPiece first rest
      obtain ⟨later, reads, shown⟩ := ih
      refine ⟨(here, piece.display) :: later, ?_, ?_⟩
      · rw [whole]
        exact .cons unit (left ▸ reads)
      · rw [decodeLenient, pieces, List.map_cons, List.map_cons, ← shown]
        rfl

theorem Shows.ne_nil {piece behind : List UInt8} {c : Char} (unit : Shows piece behind c) :
    piece ≠ [] := by
  cases unit with
  | character c => exact encodeChar_ne_nil c
  | replaced illFormed => exact illFormed.nonempty

theorem IllFormed.length_le {piece behind piece' behind' : List UInt8}
    (illFormed : IllFormed piece behind) (illFormed' : IllFormed piece' behind')
    (same : piece ++ behind = piece' ++ behind') : piece.length ≤ piece'.length := by
  rcases illFormed.begun with begins | ⟨b, rfl⟩
  · exact illFormed'.longest piece (same ▸ List.prefix_append piece behind) begins
  · exact List.length_pos_iff.mpr illFormed'.nonempty

theorem Shows.unique {piece behind piece' behind' : List UInt8} {c c' : Char}
    (unit : Shows piece behind c) (unit' : Shows piece' behind' c')
    (same : piece ++ behind = piece' ++ behind') : piece = piece' ∧ behind = behind' ∧ c = c' := by
  cases unit with
  | character c =>
      have front := same ▸ List.prefix_append (encodeChar c) behind
      cases unit' with
      | character c' =>
          obtain rfl := eq_of_fronts front (List.prefix_append (encodeChar c') behind')
          exact ⟨rfl, List.append_cancel_left same, rfl⟩
      | replaced illFormed => exact absurd front (illFormed.noCharacter c)
  | replaced illFormed =>
      cases unit' with
      | character c' =>
          exact absurd (same ▸ List.prefix_append (encodeChar c') behind')
            (illFormed.noCharacter c')
      | replaced illFormed' =>
          have size : piece.length = piece'.length :=
            Nat.le_antisymm (illFormed.length_le illFormed' same)
              (illFormed'.length_le illFormed same.symm)
          obtain ⟨rfl, rfl⟩ := List.append_inj same size
          exact ⟨rfl, rfl, rfl⟩

theorem Reads.unique (reads : Reads octets reading) (reads' : Reads octets reading') :
    reading = reading' := by
  induction reads generalizing reading' with
  | nil =>
      generalize empty : ([] : List UInt8) = octets at reads'
      cases reads' with
      | nil => rfl
      | cons unit _ => exact absurd (List.append_eq_nil_iff.mp empty.symm).1 unit.ne_nil
  | @cons piece behind c rest unit _ ih =>
      generalize same : piece ++ behind = octets at reads'
      cases reads' with
      | nil => exact absurd (List.append_eq_nil_iff.mp same).1 unit.ne_nil
      | cons unit' later' =>
          obtain ⟨rfl, rfl, rfl⟩ := unit.unique unit' same
          rw [ih later']

theorem Reads.decodeLenient_eq (reads : Reads octets reading) :
    decodeLenient octets = reading.map (·.2) := by
  obtain ⟨reading', reads', shown⟩ := exists_reads octets
  rw [shown, reads.unique reads']

/-! ## Fronts of octets -/

/-- A unit that is cut is an ill-formed piece. -/
theorem Shows.cut {piece behind : List UInt8} {c : Char} (unit : Shows piece behind c) {place : Nat}
    (filled : 0 < place) (short : place < piece.length) : IllFormed (piece.take place) [] := by
  -- a unit of several octets begins as some character does, and so do its fronts
  have begins : Begins piece := by
    cases unit with
    | character c => exact ⟨c, List.prefix_refl _⟩
    | replaced illFormed =>
        rcases illFormed.begun with begins | ⟨b, rfl⟩
        · exact begins
        · rw [List.length_singleton] at short
          omega
  constructor
  · rw [← List.length_pos_iff, List.length_take]
    omega
  · intro d found
    rw [List.append_nil] at found
    have inside := found.trans (List.take_prefix place piece)
    cases unit with
    | character c =>
        obtain rfl := eq_of_fronts inside (List.prefix_refl _)
        have size := found.length_le
        rw [List.length_take] at size
        omega
    | replaced illFormed =>
        exact illFormed.noCharacter d (inside.trans (List.prefix_append piece behind))
  · exact .inl (begins.front (List.take_prefix place piece))
  · intro front shape _
    rw [List.append_nil] at shape
    exact shape.length_le

theorem Shows.uncut {piece behind front : List UInt8} {c : Char} (unit : Shows piece behind c)
    (h : front <+: behind) : Shows piece front c := by
  have inside : piece ++ front <+: piece ++ behind := (List.prefix_append_right_inj piece).mpr h
  cases unit with
  | character c => exact .character c
  | replaced illFormed =>
      exact .replaced
        { nonempty := illFormed.nonempty
          noCharacter := fun d found => illFormed.noCharacter d (found.trans inside)
          begun := illFormed.begun
          longest := fun shorter shape => illFormed.longest shorter (shape.trans inside) }

/-- Where a unit begins, so many units begin before a place as do behind it, and one more unless
the place is the very first. -/
theorem begunBefore_cons (place : Nat) (piece : List UInt8) (rest : List (List UInt8)) :
    begunBefore place (piece :: rest) =
      (if 0 < place then 1 else 0) + begunBefore (place - piece.length) rest := by
  have later : ((starts rest).map (piece.length + ·)).filter (· < place) =
      ((starts rest).filter (· < place - piece.length)).map (piece.length + ·) := by
    rw [List.filter_map]
    refine congrArg _ (List.filter_congr fun start _ => decide_eq_decide.mpr ?_)
    exact Nat.lt_sub_iff_add_lt'.symm
  rw [begunBefore, starts, List.filter_cons, later]
  split
  · rename_i filled
    rw [List.length_cons, List.length_map, if_pos (of_decide_eq_true filled), Nat.add_comm]
    rfl
  · rename_i empty
    rw [List.length_map, if_neg (by simpa using empty), Nat.zero_add]
    rfl

theorem begunBefore_zero (pieces : List (List UInt8)) : begunBefore 0 pieces = 0 := by
  simp [begunBefore]

/-- A front of octets is read as the units that begin in it. -/
theorem Reads.exists_reads_take (reads : Reads octets reading) (place : Nat) :
    ∃ reading', Reads (octets.take place) reading' ∧
      reading'.length = begunBefore place (reading.map (·.1)) := by
  induction reads generalizing place with
  | nil =>
      rw [List.take_nil]
      exact ⟨[], .nil, rfl⟩
  | @cons piece behind c rest unit _ ih =>
      have filled := List.length_pos_iff.mpr unit.ne_nil
      rw [List.map_cons, begunBefore_cons]
      rcases Nat.eq_zero_or_pos place with rfl | inside
      · rw [List.take_zero, if_neg (Nat.lt_irrefl 0), Nat.zero_sub, begunBefore_zero]
        exact ⟨[], .nil, rfl⟩
      rw [if_pos inside]
      rcases Nat.lt_or_ge place piece.length with short | long
      · -- the unit is cut, and nothing behind it is left
        rw [List.take_append_of_le_length (Nat.le_of_lt short),
          Nat.sub_eq_zero_of_le (Nat.le_of_lt short), begunBefore_zero]
        refine ⟨[(piece.take place, '\uFFFD')], ?_, rfl⟩
        have alone := Reads.cons (.replaced (unit.cut inside short)) .nil
        rwa [List.append_nil] at alone
      · obtain ⟨later, reads, count⟩ := ih (place - piece.length)
        refine ⟨(piece, c) :: later, ?_, ?_⟩
        · rw [List.take_append, List.take_of_length_le long]
          exact .cons (unit.uncut (List.take_prefix _ _)) reads
        · rw [List.length_cons, count, Nat.add_comm]

theorem Reads.length_decodeLenient_take (reads : Reads octets reading) (place : Nat) :
    (decodeLenient (octets.take place)).length = begunBefore place (reading.map (·.1)) := by
  obtain ⟨reading', reads', count⟩ := reads.exists_reads_take place
  rw [reads'.decodeLenient_eq, List.length_map, count]

theorem begunBefore_mono (pieces : List (List UInt8)) {place place' : Nat} (h : place ≤ place') :
    begunBefore place pieces ≤ begunBefore place' pieces := by
  rw [begunBefore, begunBefore, ← List.countP_eq_length_filter, ← List.countP_eq_length_filter]
  apply List.countP_mono_left
  intro start _ before
  exact decide_eq_true (Nat.lt_of_lt_of_le (of_decide_eq_true before) h)

theorem Reads.begunBefore_le (reads : Reads octets reading) (place : Nat) :
    begunBefore place (reading.map (·.1)) ≤ place := by
  induction reads generalizing place with
  | nil => exact Nat.zero_le place
  | @cons piece behind c rest unit _ ih =>
      have filled := List.length_pos_iff.mpr unit.ne_nil
      have later := ih (place - piece.length)
      rw [List.map_cons, begunBefore_cons]
      dsimp only
      split <;> omega

end SignatureLint.Utf8
