/-!
# UTF-8

Text as octets and back. A sequence of octets is cut into pieces, each a character or a longest
ill-formed run; the strict reading fails at the first ill-formed run and the lenient reading puts a
replacement character in its place.
-/

namespace SignatureLint.Utf8

def encodeChar (c : Char) : List UInt8 :=
  let code := c.toNat
  if code < 0x80 then [code.toUInt8]
  else if code < 0x800 then
    [(0xC0 + code / 64).toUInt8, (0x80 + code % 64).toUInt8]
  else if code < 0x10000 then
    [(0xE0 + code / 4096).toUInt8, (0x80 + code / 64 % 64).toUInt8, (0x80 + code % 64).toUInt8]
  else
    [(0xF0 + code / 262144).toUInt8, (0x80 + code / 4096 % 64).toUInt8,
      (0x80 + code / 64 % 64).toUInt8, (0x80 + code % 64).toUInt8]

def encode (text : List Char) : List UInt8 :=
  text.flatMap encodeChar

/-- The number of octets of one character. -/
def charWidth (c : Char) : Nat :=
  if c.toNat < 0x80 then 1 else if c.toNat < 0x800 then 2 else if c.toNat < 0x10000 then 3 else 4

/-- The number of octets of a text. -/
def width : List Char → Nat
  | [] => 0
  | c :: rest => charWidth c + width rest

/-- Why a run of octets is no character. -/
inductive Fault where
  | invalidStart
  | invalidContinuation
  | unexpectedEnd
  deriving DecidableEq, Repr

def Fault.message : Fault → String
  | .invalidStart => "invalid start byte"
  | .invalidContinuation => "invalid continuation byte"
  | .unexpectedEnd => "unexpected end of data"

/-- One character, or one longest ill-formed run with its first octet and its length. -/
inductive Piece where
  | char (c : Char)
  | malformed (fault : Fault) (first : UInt8) (length : Nat)
  deriving DecidableEq, Repr

namespace Piece

/-- The number of octets of a piece. -/
def length : Piece → Nat
  | char c => charWidth c
  | malformed _ _ n => n

/-- The character that stands for a piece in a lenient reading. -/
def display : Piece → Char
  | char c => c
  | malformed .. => '\uFFFD'

end Piece

/-- The number of continuation octets after a first octet, the payload of the first octet, and the
range of the octet that comes next. -/
def lead? (b : UInt8) : Option (Nat × Nat × UInt8 × UInt8) :=
  if b < 0x80 then some (0, b.toNat, 0x80, 0xBF)
  else if b < 0xC2 then none
  else if b < 0xE0 then some (1, b.toNat - 0xC0, 0x80, 0xBF)
  else if b = 0xE0 then some (2, 0, 0xA0, 0xBF)
  else if b = 0xED then some (2, 0xD, 0x80, 0x9F)
  else if b < 0xF0 then some (2, b.toNat - 0xE0, 0x80, 0xBF)
  else if b = 0xF0 then some (3, 0, 0x90, 0xBF)
  else if b < 0xF4 then some (3, b.toNat - 0xF0, 0x80, 0xBF)
  else if b = 0xF4 then some (3, 4, 0x80, 0x8F)
  else none

/-- Read the continuation octets that are still missing after `taken` octets with payload `code`. -/
def readTail (first : UInt8) : (missing taken code : Nat) → (low high : UInt8) → List UInt8 → Piece
  | 0, _, code, _, _, _ => .char (Char.ofNat code)
  | _ + 1, taken, _, _, _, [] => .malformed .unexpectedEnd first taken
  | missing + 1, taken, code, low, high, b :: rest =>
      if low ≤ b && b ≤ high then
        readTail first missing (taken + 1) (code * 64 + (b.toNat - 0x80)) 0x80 0xBF rest
      else .malformed .invalidContinuation first taken

/-- The piece at the front of the octets `first :: rest`. -/
def readPiece (first : UInt8) (rest : List UInt8) : Piece :=
  match lead? first with
  | none => .malformed .invalidStart first 1
  | some (missing, code, low, high) => readTail first missing 1 code low high rest

/-- The pieces of a sequence of octets. -/
def pieces : List UInt8 → List Piece
  | [] => []
  | first :: rest =>
      let piece := readPiece first rest
      piece :: pieces (rest.drop (piece.length - 1))
termination_by octets => octets.length
decreasing_by simp only [List.length_drop, List.length_cons]; omega

/-- Where and why a strict reading failed. -/
structure DecodeError where
  fault : Fault
  first : UInt8
  start : Nat
  length : Nat
  deriving DecidableEq, Repr

/-- Two hexadecimal digits. -/
def octetText (b : UInt8) : String :=
  let digits := Nat.toDigits 16 b.toNat
  String.ofList (if digits.length < 2 then '0' :: digits else digits)

/-- The wording of a failed reading. -/
def DecodeError.message (error : DecodeError) : String :=
  let place :=
    if error.length = 1 then s!"byte 0x{octetText error.first} in position {error.start}"
    else s!"bytes in position {error.start}-{error.start + error.length - 1}"
  s!"'utf-8' codec can't decode {place}: {error.fault.message}"

/-- The characters of pieces that begin at an offset, or the first ill-formed run. -/
def strictFrom (offset : Nat) : List Piece → Except DecodeError (List Char)
  | [] => .ok []
  | .char c :: rest => (strictFrom (offset + charWidth c) rest).map (c :: ·)
  | .malformed fault first length :: _ => .error ⟨fault, first, offset, length⟩

/-- The strict reading. -/
def decode (octets : List UInt8) : Except DecodeError (List Char) :=
  strictFrom 0 (pieces octets)

def decodeLenient (octets : List UInt8) : List Char :=
  (pieces octets).map Piece.display

/-- The byte order mark that may stand before a text. -/
def byteOrderMark : List UInt8 := [0xEF, 0xBB, 0xBF]

/-- Split off a byte order mark. -/
def splitMark (octets : List UInt8) : List UInt8 × List UInt8 :=
  if byteOrderMark.isPrefixOf octets then (byteOrderMark, octets.drop 3) else ([], octets)

/-- The octets of a text without the mark before it. An unfinished mark is no text either. -/
def withoutMark (octets : List UInt8) : List UInt8 :=
  if octets.isPrefixOf byteOrderMark then [] else (splitMark octets).2

end SignatureLint.Utf8
