import SignatureLint.Console.Emoji
import SignatureLint.Console.Style
import SignatureLint.Syntax.Literal
import SignatureLint.Text.Quoted
import SignatureLint.Wordings

/-!
# Markup

Tags between square brackets give a text a style and are not shown.  A tag that
closes another one must have one to close; a backslash in front of a tag makes it
part of the text.  The parameters of a tag that names an action are read when it is
closed.
-/

namespace SignatureLint.Console

/-- What is wrong with a closing tag. -/
inductive MarkupError where
  | unmatched (tag : String) (position : Nat)
  | nothingToClose (position : Nat)
  /-- The part of the parameters of the closed tag that is read is no expression. -/
  | noExpression (part parameters : List Char)
  | noLiteral (part parameters : List Char)
  deriving DecidableEq, Repr

def quoted (text : List Char) : String :=
  Quoted.string (String.ofList text)

def MarkupError.message [Wordings] : MarkupError → String
  | unmatched tag position =>
      s!"closing tag '[{tag}]' at position {position} doesn't match any open tag"
  | nothingToClose position =>
      s!"closing tag '[/]' at position {position} has nothing to close"
  | noExpression part parameters =>
      s!"error parsing {quoted part} in {quoted parameters}; {Wordings.literal part}"
  | noLiteral part parameters =>
      s!"error parsing {quoted parameters}; {Wordings.literal part}"

/-- A part of a markup text. -/
inductive MarkupPiece where
  | plain (text : List Char)
  /-- A tag, with its position in the markup text. -/
  | tag (body : List Char) (position : Nat)
  deriving DecidableEq, Repr

/-- A character that can be the first of a tag. -/
def opensTag (c : Char) : Bool :=
  c.isLower || c == '#' || c == '/' || c == '@'

/-- The tag whose opening bracket stands before a text. -/
def tagBody? : List Char → Option (List Char)
  | [] => none
  | c :: rest =>
      let more := rest.takeWhile fun c => c != '[' && c != ']'
      if opensTag c && (rest.drop more.length).head? == some ']' then some (c :: more) else none

/-- A plain part, unless it is empty. -/
def plainPiece (text : List Char) : List MarkupPiece :=
  if text.isEmpty then [] else [.plain text]

/-- The parts that a tag after some backslashes yields: half of the backslashes, and the tag, which
is text if a backslash is left over. -/
def taggedPieces (backslashes position : Nat) (body : List Char) : List MarkupPiece :=
  let pairs := backslashes / 2
  let last : MarkupPiece :=
    if backslashes % 2 = 1 then .plain ('[' :: (body ++ [']']))
    else .tag body (position + 2 * pairs)
  plainPiece (List.replicate pairs '\\') ++ [last]

/-- The parts of a markup text that goes on at a position, after plain characters in reverse
order. -/
def markupPieces (position : Nat) (plain : List Char) : List Char → List MarkupPiece
  | [] => plainPiece plain.reverse
  | c :: rest =>
      let backslashes := ((c :: rest).takeWhile (· == '\\')).length
      let inner := (c :: rest).drop (backslashes + 1)
      let isBracket := ((c :: rest).drop backslashes).head? == some '['
      match if isBracket then tagBody? inner else none with
      | none => markupPieces (position + 1) (c :: plain) rest
      | some body =>
          let after := rest.drop (backslashes + body.length + 1)
          plainPiece plain.reverse ++ taggedPieces backslashes position body ++
            markupPieces (position + backslashes + body.length + 2) [] after
termination_by text => text.length
decreasing_by all_goals simp only [List.length_drop, List.length_cons]; omega

/-- Drop the backslash in front of an opening bracket. -/
def unescaped : List Char → List Char
  | [] => []
  | '\\' :: '[' :: rest => '[' :: unescaped rest
  | c :: rest => c :: unescaped rest

/-- A control character that is never shown. -/
def isDropped (c : Char) : Bool :=
  [7, 8, 11, 12, 13].contains c.toNat

/-- What is shown of a plain part. -/
def shown (text : List Char) : List Char :=
  (withEmoji (unescaped text)).filter (!isDropped ·)

/-- The name of a tag: what stands before an equals sign. -/
def tagName (body : List Char) : List Char :=
  body.takeWhile (· != '=')

/-- The parameters of a tag: what stands behind the first equals sign. -/
def tagParameters (body : List Char) : List Char :=
  (body.dropWhile (· != '=')).drop 1

structure OpenTag where
  style : String
  parameters : List Char
  deriving DecidableEq, Repr

namespace OpenTag

def isAction (tag : OpenTag) : Bool :=
  tag.style.toList.head? == some '@'

/-- The part of the parameters of an action that is read: what is in brackets behind the name of a
handler, and all of them if they have no such form. -/
def arguments (tag : OpenTag) : List Char :=
  let whole := Text.trim tag.parameters
  match whole.dropWhile fun c => Text.isWord c || c == '.' with
  | [] => ['(', ')']
  | c :: rest =>
      if c == '(' && rest.getLast? == some ')' && !rest.contains '\n' then c :: rest else whole

/-- Close a tag.  The parameters of an action must be literals. -/
def close (tag : OpenTag) : Except MarkupError Unit :=
  if tag.isAction && !tag.parameters.isEmpty then
    match literalFault? tag.arguments with
    | none => .ok ()
    | some .noExpression => .error (.noExpression tag.arguments tag.parameters)
    | some .noLiteral => .error (.noLiteral tag.arguments tag.parameters)
  else .ok ()

end OpenTag

/-- The open tags after a tag, the innermost first. A tag closes the innermost one of its style. -/
def afterTag (isOpen : List OpenTag) (body : List Char) (position : Nat) :
    Except MarkupError (List OpenTag) :=
  match tagName body with
  | '/' :: name =>
      if (Text.trim name).isEmpty then
        match isOpen with
        | [] => .error (.nothingToClose position)
        | tag :: outer => tag.close.map fun _ => outer
      else
        let style := styleName (Text.trim name)
        match isOpen.find? (·.style == style) with
        | none => .error (.unmatched (String.ofList body) position)
        | some tag => tag.close.map fun _ => isOpen.eraseP (·.style == style)
  | name => .ok (⟨styleName name, tagParameters body⟩ :: isOpen)

/-- What is shown of the parts of a markup text inside some open tags. -/
def showPieces (isOpen : List OpenTag) : List MarkupPiece → Except MarkupError (List Char)
  | [] => .ok []
  | .plain text :: rest => do return shown text ++ (← showPieces isOpen rest)
  | .tag body position :: rest => do showPieces (← afterTag isOpen body position) rest

/-- What is shown of a markup text. -/
def render (markup : String) : Except MarkupError (List Char) :=
  showPieces [] (markupPieces 0 [] markup.toList)

end SignatureLint.Console
