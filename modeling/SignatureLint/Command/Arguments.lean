import SignatureLint.Pathname
import SignatureLint.Text.Search

/-!
# Arguments of the program

The first argument names a command.  Options and other arguments may stand in any
order after it; two dashes alone end the options.
-/

namespace SignatureLint

structure CheckOptions where
  paths : List Pathname := []
  manifest : Option Pathname := none
  json : Bool := false
  fix : Bool := false
  disabled : List String := []
  workers : Option Nat := none
  config : Option Pathname := none
  logDirectory : Option Pathname := none
  deriving DecidableEq, Repr, Inhabited

inductive Command where
  | check (options : CheckOptions)
  | rules
  | explain (id : String)
  | help
  deriving DecidableEq, Repr

namespace Arguments

/-- An argument, or an option with its value. -/
inductive Word where
  | plain (text : String)
  | flag (name : String)
  | valued (name value : String)
  deriving DecidableEq, Repr

/-- The options of a command: those that stand alone, and those with a value. -/
structure Options where
  flags : List String := []
  valued : List String := []

/-- An argument that begins like an option. -/
def isOption (argument : String) : Bool :=
  argument.toList.head? == some '-' && 1 < argument.length

/-- The name and the value of an option that is written with an equals sign. -/
def splitOption (argument : String) : String × Option String :=
  let name := argument.toList.takeWhile (· != '=')
  match argument.toList.drop name.length with
  | [] => (argument, none)
  | _ :: value => (String.ofList name, some (String.ofList value))

/-- Tell options from other arguments. -/
def words (options : Options) : List String → Option (List Word)
  | [] => some []
  | argument :: rest =>
      if argument = "--" then some (rest.map Word.plain)
      else if !isOption argument then (words options rest).map (.plain argument :: ·)
      else
        match splitOption argument with
        | (name, some value) =>
            if options.valued.contains name then (words options rest).map (.valued name value :: ·)
            else none
        | (name, none) =>
            if options.flags.contains name then (words options rest).map (.flag name :: ·)
            else if options.valued.contains name then
              match rest with
              | [] => none
              | value :: rest => (words options rest).map (.valued name value :: ·)
            else none

/-- The number that digits stand for, with single underscores between them; another digit must come
next if one is missing. -/
def digits? (value : Nat) (missing : Bool) : List Char → Option Nat
  | [] => if missing then none else some value
  | c :: rest =>
      if c.isDigit then digits? (10 * value + (c.toNat - 48)) false rest
      else if c = '_' && !missing then digits? value true rest
      else none

/-- A number of workers: at least one. -/
def workers? (text : String) : Option Nat := do
  let digits := match Text.trim text.toList with
    | '+' :: rest => rest
    | other => other
  let number ← digits? 0 true digits
  if number = 0 then none else some number

/-- Take account of an argument of the check. -/
def addToCheck (options : CheckOptions) : Word → Option CheckOptions
  | .plain text => some { options with paths := options.paths ++ [Pathname.ofString text] }
  | .flag name =>
      if name = "--json" then some { options with json := true }
      else if name = "--fix" then some { options with fix := true }
      else none
  | .valued name value =>
      match name with
      | "--manifest" => some { options with manifest := some (Pathname.ofString value) }
      | "--disable" => some { options with disabled := options.disabled ++ [value] }
      | "--workers" => (workers? value).map fun number => { options with workers := some number }
      | "--config" => some { options with config := some (Pathname.ofString value) }
      | "--log-dir" => some { options with logDirectory := some (Pathname.ofString value) }
      | _ => none

/-- The option that asks for help. -/
def helpFlag : String := "--help"

def checkOptions : Options where
  flags := ["--json", "--fix", helpFlag]
  valued := ["--manifest", "--disable", "--workers", "--config", "--log-dir"]

/-- The command that a name and its arguments ask for, unless they ask for help. -/
def command? (options : Options) (build : List Word → Option Command) (arguments : List String) :
    Option Command := do
  let words ← words options arguments
  if words.contains (.flag helpFlag) then return .help else build words

end Arguments

namespace Command

open Arguments

/-- The command that the arguments of the program ask for. -/
def ofArguments : List String → Option Command
  | [] => none
  | name :: arguments =>
      match name with
      | "check" =>
          command? checkOptions (fun words => (words.foldlM addToCheck {}).map .check) arguments
      | "rules" =>
          command? { flags := [helpFlag] } (fun
            | [] => some .rules
            | _ => none) arguments
      | "explain" =>
          command? { flags := [helpFlag] } (fun
            | [.plain id] => some (.explain id)
            | _ => none) arguments
      | other => if other = helpFlag then some .help else none

end Command

end SignatureLint
