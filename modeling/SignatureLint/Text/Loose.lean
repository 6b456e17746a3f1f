/-!
# Loose text

A string literal can spell a lone surrogate, which is no character. Such a text is kept as its code
points; every other one is an ordinary string.
-/

namespace SignatureLint

/-- A text that may hold lone surrogates. -/
inductive LooseText where
  /-- An ordinary text. -/
  | clean (text : String)
  /-- The code points of a text with a lone surrogate. -/
  | broken (points : List Nat)
  deriving DecidableEq, Repr, Inhabited

/-- A code point that is reserved for pairs and is no character. -/
def isSurrogate (code : Nat) : Bool :=
  0xD800 ≤ code && code ≤ 0xDFFF

namespace LooseText

/-- The text with the given code points. -/
def ofPoints (points : List Nat) : LooseText :=
  if points.any isSurrogate then broken points
  else clean (String.ofList (points.map Char.ofNat))

def points : LooseText → List Nat
  | clean text => text.toList.map Char.toNat
  | broken points => points

/-- The text as a string, with a null character for each surrogate. -/
def display (text : LooseText) : String :=
  String.ofList (text.points.map Char.ofNat)

end LooseText

/-- A text with a lone surrogate was to be written as octets: the first run of surrogates. -/
structure SurrogateError where
  first : Nat
  start : Nat
  length : Nat
  deriving DecidableEq, Repr

namespace SurrogateError

/-- The first run of surrogates among code points. -/
def ofPoints (points : List Nat) : SurrogateError :=
  let before := points.takeWhile (fun code => !isSurrogate code)
  let run := (points.drop before.length).takeWhile isSurrogate
  ⟨run.headD 0xD800, before.length, run.length⟩

/-- The wording of the failure. -/
def message (error : SurrogateError) : String :=
  let place :=
    if error.length = 1 then
      let digits := String.ofList (Nat.toDigits 16 error.first)
      s!"character '\\u{digits}' in position {error.start}"
    else s!"characters in position {error.start}-{error.start + error.length - 1}"
  "'utf-8' codec can't encode " ++ place ++ ": surrogates not allowed"

end SurrogateError

end SignatureLint
