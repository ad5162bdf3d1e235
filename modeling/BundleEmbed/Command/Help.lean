/-!
The help of a command: how it is used, what it is for, and two columns of names with
their descriptions.
-/

namespace BundleEmbed

/-- A name and its description. -/
abbrev HelpRow := String × String

/-- A column of names is at most this wide. -/
def columnLimit : Nat := 30

/-- The rows in two columns, indented. The description of a name that is too wide for its
column stands on the next line. -/
def helpRows (rows : List HelpRow) : List String :=
  let widest := (rows.map (·.1.length)).foldl max 0
  let column := min widest columnLimit
  rows.flatMap fun (name, description) =>
    if name.length ≤ column then
      [String.ofList ([' ', ' '] ++ name.toList ++ List.replicate (column - name.length + 2) ' ' ++
        description.toList)]
    else
      ["  " ++ name, String.ofList (List.replicate (column + 4) ' ' ++ description.toList)]

/-- What the help of a command says. -/
structure Help where
  usage : String
  purpose : String
  options : List HelpRow
  commands : List HelpRow

/-- The line that says how a command is used. -/
def Help.usageLine (help : Help) : String := "Usage: " ++ help.usage

/-- The rows under a title, after an empty line; without rows there is no title. -/
def helpSection (title : String) (rows : List HelpRow) : List String :=
  if rows = [] then [] else ["", title ++ ":"] ++ helpRows rows

/-- The lines of the help. -/
def Help.lines (help : Help) : List String :=
  [help.usageLine, "", "  " ++ help.purpose] ++ helpSection "Options" help.options ++
    helpSection "Commands" help.commands

end BundleEmbed
