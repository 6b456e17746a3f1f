import SignatureLint.Toml.Scalar

/-!
# TOML documents

A document is a sequence of entries and table headers.  A table that was
declared once cannot be declared again, and a value that was written in place
cannot be extended.
-/

namespace SignatureLint

namespace Toml

/-- The names on the way to a value, the outermost first. -/
abbrev Key := List String

abbrev Entries := List (String × Setting)

/-! ## Tables -/

/-- Put a value at a name that is there already. -/
def replace (entries : Entries) (name : String) (value : Setting) : Entries :=
  entries.map fun (key, old) => if key = name then (key, value) else (key, old)

/-- Put a value at a name: in its place if the name is there, at the end otherwise. -/
def put (entries : Entries) (name : String) (value : Setting) : Entries :=
  if (entries.lookup name).isSome then replace entries name value
  else entries ++ [(name, value)]

/-- Change the table at a key, which is created if it is not there.  A list stands for its last
table if it may be entered at all. -/
def modifyTable (enterLists : Bool) (change : Entries → Except TomlError Entries) :
    Key → Entries → Except TomlError Entries
  | [], entries => change entries
  | name :: rest, entries =>
      match entries.lookup name with
      | none => do
          let inner ← modifyTable enterLists change rest []
          return put entries name (.table inner)
      | some (.table inner) => do
          let inner ← modifyTable enterLists change rest inner
          return put entries name (.table inner)
      | some (.list elements) =>
          match enterLists, elements.getLast? with
          | true, some (.table inner) => do
              let inner ← modifyTable enterLists change rest inner
              return put entries name (.list (elements.dropLast ++ [.table inner]))
          | _, _ => .error .malformed
      | some _ => .error .malformed

/-- Add an entry to a table that has none of its name. -/
def addNew (name : String) (value : Setting) (entries : Entries) : Except TomlError Entries :=
  if (entries.lookup name).isSome then .error .malformed else .ok (entries ++ [(name, value)])

/-- Add an empty table to the list at a name, which is created if it is not there. -/
def addTable (name : String) (entries : Entries) : Except TomlError Entries :=
  match entries.lookup name with
  | none => .ok (entries ++ [(name, .list [.table []])])
  | some (.list elements) => .ok (replace entries name (.list (elements ++ [.table []])))
  | some _ => .error .malformed

/-- The names before the last one of a key, and the last one. -/
def splitKey (key : Key) : Key × String :=
  (key.dropLast, key.getLastD "")

/-- A value that holds others. -/
def isContainer : Setting → Bool
  | .list _ | .table _ => true
  | _ => false

/-- Whether a key or one of its beginnings is among some keys. -/
def covers (keys : List Key) (key : Key) : Bool :=
  keys.any (·.isPrefixOf key)

/-! ## Values -/

/-- A character of a name without quotes. -/
def isBare (c : Char) : Bool :=
  c.isAlphanum || c == '-' || c == '_'

/-- One name of a key, and what follows it. -/
def name (text : List Char) : Except TomlError (String × List Char) :=
  match text with
  | '"' :: rest => do
      let (body, after) ← lineText rest
      return (String.ofList body, after)
  | c :: rest =>
      if c == '\x27' then do
        let (body, after) ← literalText rest
        return (String.ofList body, after)
      else if isBare c then
        .ok (String.ofList (text.takeWhile isBare), text.dropWhile isBare)
      else .error .malformed
  | [] => .error .malformed

/-- The names of a key after its first one, and what follows the key. -/
def moreNames : (fuel : Nat) → List Char → Except TomlError (Key × List Char)
  | 0, _ => .error .malformed
  | fuel + 1, text =>
      match skipBlanks text with
      | '.' :: rest => do
          let (first, after) ← name (skipBlanks rest)
          let (names, after) ← moreNames fuel after
          return (first :: names, after)
      | other => .ok ([], other)

/-- A key, and what follows the blanks after it. -/
def key (text : List Char) : Except TomlError (Key × List Char) := do
  let (first, rest) ← name text
  let (names, rest) ← moreNames (text.length + 1) rest
  return (first :: names, rest)

def skipComment (text : List Char) : Except TomlError (List Char) :=
  match text with
  | '#' :: rest =>
      if (rest.takeWhile (· != '\n')).any isControl then .error .malformed
      else .ok (rest.dropWhile (· != '\n'))
  | _ => .ok text

/-- What follows blanks, line ends and comments. -/
def skipFiller : (fuel : Nat) → List Char → Except TomlError (List Char)
  | 0, text => .ok text
  | fuel + 1, text => do
      let after ← skipComment (skipLines text)
      if after.length < text.length then skipFiller fuel after else return after

/-- What follows everything between the elements of a list that is no element. -/
def filler (text : List Char) : Except TomlError (List Char) :=
  skipFiller (text.length + 1) text

mutual

/-- A value, and what follows it.  Every call uses up some fuel; twice the length of the text is
enough. -/
def value : (fuel : Nat) → List Char → Except TomlError (Setting × List Char)
  | 0, _ => .error .malformed
  | fuel + 1, text =>
      match text with
      | '"' :: '"' :: '"' :: rest => do
          let (body, after) ← linesText rest
          return (.text (String.ofList body), after)
      | '"' :: rest => do
          let (body, after) ← lineText rest
          return (.text (String.ofList body), after)
      | '[' :: rest => do
          match ← filler rest with
          | ']' :: after => return (.list [], after)
          | inside => do
              let (elements, after) ← elements fuel inside
              return (.list elements, after)
      | '\x7b' :: rest =>
          match skipBlanks rest with
          | '\x7d' :: after => .ok (.table [], after)
          | inside => do
              let (entries, after) ← inlineEntries fuel [] [] inside
              return (.table entries, after)
      | _ =>
          if ['\x27', '\x27', '\x27'].isPrefixOf text then do
            let (body, after) ← literalLinesText (text.drop 3)
            return (.text (String.ofList body), after)
          else if ['\x27'].isPrefixOf text then do
            let (body, after) ← literalText (text.drop 1)
            return (.text (String.ofList body), after)
          else
            match word? [("true", .boolean true), ("false", .boolean false)] text with
            | some found => .ok found
            | none => scalar text

/-- The elements of a list up to its closing bracket, and what follows it. -/
def elements : (fuel : Nat) → List Char → Except TomlError (List Setting × List Char)
  | 0, _ => .error .malformed
  | fuel + 1, text => do
      let (first, rest) ← value fuel text
      match ← filler rest with
      | ']' :: after => return ([first], after)
      | ',' :: more =>
          match ← filler more with
          | ']' :: after => return ([first], after)
          | next => do
              let (others, after) ← elements fuel next
              return (first :: others, after)
      | _ => throw .malformed

/-- The entries of a table in braces up to its closing brace, after those that were read before, of
which the frozen ones cannot be extended. -/
def inlineEntries : (fuel : Nat) → (frozen : List Key) → Entries → List Char →
    Except TomlError (Entries × List Char)
  | 0, _, _, _ => .error .malformed
  | fuel + 1, frozen, entries, text => do
      let (key, rest) ← key text
      match rest with
      | '=' :: rest => do
          let (found, rest) ← value fuel (skipBlanks rest)
          if covers frozen key then throw .malformed
          let (before, last) := splitKey key
          let entries ← modifyTable false (addNew last found) before entries
          match skipBlanks rest with
          | '\x7d' :: after => return (entries, after)
          | ',' :: more => do
              let frozen := if isContainer found then key :: frozen else frozen
              inlineEntries fuel frozen entries (skipBlanks more)
          | _ => throw .malformed
      | _ => throw .malformed

end

/-! ## Statements -/

/-- What was read of a document so far. -/
structure Document where
  entries : Entries := []
  /-- The key of the table that entries go to. -/
  header : Key := []
  /-- The keys of values that cannot be extended. -/
  frozen : List Key := []
  /-- The keys of tables that cannot be declared again. -/
  declared : List Key := []
  /-- The keys of tables that cannot be declared again after the next header. -/
  pending : List Key := []
  deriving Inhabited

namespace Document

/-- Tables that were opened by dotted keys count as declared from the next header on. -/
def finishTable (document : Document) : Document :=
  { document with declared := document.pending ++ document.declared, pending := [] }

def declareTable (document : Document) (key : Key) : Except TomlError Document := do
  if document.declared.contains key || covers document.frozen key then throw .malformed
  let entries ← modifyTable true (fun table => .ok table) key document.entries
  return { document with entries := entries, header := key, declared := key :: document.declared }

/-- Add a table to a list of tables; what was declared below the list counts no more. -/
def declareListTable (document : Document) (key : Key) : Except TomlError Document := do
  if covers document.frozen key then throw .malformed
  let outside (keys : List Key) := keys.filter fun other => !key.isPrefixOf other
  let (before, last) := splitKey key
  let entries ← modifyTable true (addTable last) before document.entries
  return { document with
    entries := entries
    header := key
    frozen := outside document.frozen
    declared := key :: outside document.declared }

/-- The beginnings of a key that are shorter than it, each below a header. -/
def openedBy (header key : Key) : List Key :=
  (List.range (key.length - 1)).map fun count => header ++ key.take (count + 1)

/-- Add an entry to the current table. -/
def addEntry (document : Document) (key : Key) (value : Setting) : Except TomlError Document := do
  let opened := openedBy document.header key
  let (before, last) := splitKey key
  let parent := document.header ++ before
  if opened.any document.declared.contains || covers document.frozen parent then throw .malformed
  let entries ← modifyTable true (addNew last value) parent document.entries
  return { document with
    entries := entries
    frozen := if isContainer value then (document.header ++ key) :: document.frozen
      else document.frozen
    pending := opened ++ document.pending }

/-- Read one statement, and what follows it. -/
def statement (document : Document) (text : List Char) :
    Except TomlError (Document × List Char) :=
  match text with
  | '[' :: '[' :: rest => do
      let (key, rest) ← key (skipBlanks rest)
      let document ← document.finishTable.declareListTable key
      match rest with
      | ']' :: ']' :: after => return (document, after)
      | _ => throw .malformed
  | '[' :: rest => do
      let (key, rest) ← key (skipBlanks rest)
      let document ← document.finishTable.declareTable key
      match rest with
      | ']' :: after => return (document, after)
      | _ => throw .malformed
  | '#' :: _ => .ok (document, text)
  | _ => do
      let (key, rest) ← key text
      match rest with
      | '=' :: rest => do
          let (value, rest) ← value (2 * rest.length + 2) (skipBlanks rest)
          return (← document.addEntry key value, rest)
      | _ => throw .malformed

/-- Read the lines of a document.  Every line uses up some fuel; the length of the text is
enough. -/
def lines : (fuel : Nat) → Document → List Char → Except TomlError Document
  | 0, document, _ => .ok document
  | fuel + 1, document, text =>
      match skipBlanks text with
      | [] => .ok document
      | '\n' :: rest => lines fuel document rest
      | statementText => do
          let (document, rest) ← document.statement statementText
          match ← skipComment (skipBlanks rest) with
          | [] => return document
          | '\n' :: rest => lines fuel document rest
          | _ => throw .malformed

end Document

/-- Turn each pair of a carriage return and a line feed into a line feed. -/
def joinLineEnds : List Char → List Char
  | [] => []
  | '\r' :: '\n' :: rest => '\n' :: joinLineEnds rest
  | c :: rest => c :: joinLineEnds rest

/-- The table that a document describes. -/
def read (text : List Char) : Except TomlError Entries := do
  let source := joinLineEnds text
  let document ← Document.lines (source.length + 1) {} source
  return document.entries

end Toml

end SignatureLint
