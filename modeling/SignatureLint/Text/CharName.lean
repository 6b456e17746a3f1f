import SignatureLint.Text.CharName.AToC
import SignatureLint.Text.CharName.DToK
import SignatureLint.Text.CharName.LToO
import SignatureLint.Text.CharName.PToZ
import SignatureLint.Text.Search
import SignatureLint.Text.Table

/-!
# Names of characters

A name spells a Hangul syllable letter by letter, or ends in the code point of its character, or is
listed. The case of letters counts only in names of syllables and of unified ideographs.

The list is written in paragraphs, one for each first word. A paragraph consists of an equals sign,
its word, and an entry for each name that begins with it, in the order of code points. A small
letter in front of the word counts the characters that it takes over from the last word: none at
`a`, one at `b`, two at `c`. An entry starts with a colon and its code point, unless this follows
the last one. Then come a small letter, which counts the words that the name takes over from the
last name after the first word, and the words that it has besides. Lines end between entries.
-/

namespace SignatureLint.CharName

/-! ## Syllables -/

/-- The spellings of the consonants that open a syllable. -/
def leads : List String :=
  ["G", "GG", "N", "D", "DD", "R", "M", "B", "BB", "S", "SS", "", "J", "JJ", "C", "K", "T", "P",
    "H"]

/-- The spellings of the vowels of a syllable. -/
def vowels : List String :=
  ["A", "AE", "YA", "YAE", "EO", "E", "YEO", "YE", "O", "WA", "WAE", "OE", "YO", "U", "WEO", "WE",
    "WI", "YU", "EU", "YI", "I"]

/-- The spellings of the consonants that close a syllable. -/
def tails : List String :=
  ["", "G", "GG", "GS", "N", "NJ", "NH", "D", "L", "LG", "LM", "LB", "LS", "LT", "LP", "LH", "M",
    "B", "BS", "S", "SS", "NG", "J", "C", "K", "T", "P", "H"]

/-- The place in a list of the longest spelling at the front of a text, and the rest of the text. No
spelling has more than three characters. -/
def letter? (spellings : List String) (text : List Char) : Option (Nat × List Char) :=
  [3, 2, 1, 0].findSome? fun count =>
    (spellings.idxOf? (String.ofList (text.take count))).map fun place => (place, text.drop count)

/-- The syllable that a text spells. Each letter is the longest one possible. -/
def syllable? (spelling : List Char) : Option Nat := do
  let (lead, rest) ← letter? leads spelling
  let (vowel, rest) ← letter? vowels rest
  let (tail, rest) ← letter? tails rest
  if rest.isEmpty then some (0xAC00 + (lead * 21 + vowel) * 28 + tail) else none

/-! ## Names that end in code points -/

/-- A hexadecimal digit without small letters. -/
def isDigit (c : Char) : Bool := c.isDigit || 'A' ≤ c && c ≤ 'F'

def ideographs : Text.RangeSet := Text.RangeSet.ofText
  "3400-4DBF 4E00-9FFF 20000-2A6DF 2A700-2B738 2B740-2B81D 2B820-2CEA1 2CEB0-2EBE0 30000-3134A"

/-- The unified ideograph with a code point of four or five digits. -/
def ideograph? (digits : List Char) : Option Nat :=
  let code := Text.hexValue digits
  if (digits.length == 4 || digits.length == 5) && digits.all isDigit && ideographs.contains code
  then some code
  else none

/-- The other characters whose names end in their code points, with what stands before it. -/
def numbered : List (String × Text.RangeSet) :=
  [("CJK COMPATIBILITY IDEOGRAPH-", .ofText "F900-FA6D FA70-FAD9 2F800-2FA1D"),
    ("KHITAN SMALL SCRIPT CHARACTER-", .ofText "18B00-18CD5"),
    ("NUSHU CHARACTER-", .ofText "1B170-1B2FB")]

/-- The character whose name ends in its code point, written without zeros in front. -/
def numbered? (name : List Char) : Option Nat :=
  numbered.findSome? fun (beginning, codes) => do
    let digits ← Text.dropBeginning? beginning.toList name
    let code := Text.hexValue digits
    if digits.all isDigit && digits.head? != some '0' && codes.contains code then some code
    else none

/-! ## Listed names -/

/-- The first words of paragraphs, each with the entries of its paragraph. The paragraph before them
has the given word. -/
def paragraphs (before : List Char) : List String → List (List Char × String)
  | [] => []
  | paragraph :: rest =>
      match paragraph.toList with
      | [] => paragraphs before rest
      | c :: text =>
          let others := text.takeWhile (· != ':')
          let word := before.take (c.toNat - 'a'.toNat) ++ others
          (word, String.ofList (text.drop others.length)) :: paragraphs word rest

/-- The first words of all listed names, each with the entries of its paragraph. -/
def listing : List (List Char × String) :=
  [textAToC, textDToK, textLToO, textPToZ].flatMap fun text => paragraphs [] (text.splitOn "=")

/-- The names of a paragraph without their first word, each with its code point. The first name has
the given code point unless it says otherwise, and follows the given words. -/
def entries (code : Nat) (before : List (List Char)) :
    List Char → List (List (List Char) × Nat)
  | [] => []
  | c :: rest =>
      if c == ':' then
        let digits := rest.takeWhile isDigit
        entries (Text.hexValue digits) before (rest.drop digits.length)
      else if c.isLower then
        let others := rest.takeWhile fun c => !(c == ':' || c == '\n' || c.isLower)
        let kept := before.take (c.toNat - 'a'.toNat)
        let words := kept ++ (Text.pieces (· == ' ') others).filter (!·.isEmpty)
        (words, code) :: entries (code + 1) words (rest.drop others.length)
      else entries code before rest
termination_by text => text.length
decreasing_by all_goals simp only [List.length_drop, List.length_cons]; omega

def listed? (name : List Char) : Option Nat :=
  match Text.pieces (· == ' ') name with
  | [] => none
  | first :: words => do
      let paragraph ← listing.lookup first
      let (_, code) ← (entries 0 [] paragraph.toList).find? fun (others, _) => others == words
      return code

/-- The code point of the character with a name. -/
def find? (name : List Char) : Option Nat :=
  match Text.dropBeginning? "HANGUL SYLLABLE ".toList name,
      Text.dropBeginning? "CJK UNIFIED IDEOGRAPH-".toList name with
  | some spelling, _ => syllable? spelling
  | _, some digits => ideograph? digits
  | none, none =>
      let name := name.map Char.toUpper
      (numbered? name).orElse fun _ => listed? name

end SignatureLint.CharName
