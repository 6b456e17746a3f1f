import SignatureLint.Command.Run

/-!
# Documentation of issues

The issues that are looked for can be listed, and each can be explained.
-/

namespace SignatureLint.Issues

def column (header : String) (maximum : Option Nat) (entry : Issue → String) : Console.Column :=
  { header := header.toList
    maximum
    entries := Issue.all.map fun issue => (entry issue).toList }

def table : Console.Table where
  title := "Registered issues".toList
  columns :=
    [column "ID" none Issue.id, column "Severity" none (·.severity.name),
      column "Category" none Issue.category, column "Summary" (some 60) Issue.brief]
  ruled := false

def list : Run Unit :=
  Run.printLines table.lines

def explain (id : String) : Run Unit :=
  match Issue.get id with
  | .error error => do
      Run.say ("[red]" ++ error.message ++ "[/red]")
      Run.exit 2
  | .ok issue =>
      Run.printLines
        (Console.panel (issue.id ++ ": " ++ issue.brief).toList issue.explanation.toList)

end SignatureLint.Issues
