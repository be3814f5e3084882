import Notary.CommandLine.Command

namespace Notary.CommandLine

/-!
# Help texts

A help text tells what a command is for, how it is called, and what its
arguments mean. The meaning stands beside an argument, or below it when it is
too long for one of them.
-/

/-- An argument and its meaning. -/
structure HelpItem where
  /-- The letter of an option, if it has one. -/
  short : Option Char
  label : String
  meaning : String
deriving Repr, DecidableEq

/-- Spaces. -/
def spaces (count : Nat) : String :=
  String.ofList (List.replicate count ' ')

/-- A text that is filled up with spaces. -/
def padTo (width : Nat) (text : String) : String :=
  text ++ spaces (width - text.length)

/-- The width of the longest text. -/
def widest (texts : List String) : Nat :=
  (texts.map String.length).foldl max 0

/-- What is told about the values of an option, each piece after a space. -/
def Switch.notes (e : Environment) (o : Switch) : List String :=
  (o.source.map fun name =>
    "[env: " ++ name ++ "=" ++ (e.get? name).getD "" ++ "]").toList ++
  (o.fallback.map fun value => "[default: " ++ value ++ "]").toList ++
  match o.accepts with
  | .oneOf values => ["[possible values: " ++ ", ".intercalate values ++ "]"]
  | _ => []

/-- An option as an item. -/
def Switch.item (e : Environment) (o : Switch) : HelpItem :=
  let help := if o.help.isEmpty then [] else [o.help]
  ⟨o.short, o.label, " ".intercalate (help ++ o.notes e)⟩

/-- The items of a command's options. -/
def Command.optionItems (c : Command) (e : Environment) : List HelpItem :=
  c.options.map (·.item e) ++ [⟨some 'h', "--help", "Print help"⟩] ++
    (c.version.map fun _ => HelpItem.mk (some 'V') "--version" "Print version").toList

/-- The width of a line. -/
def lineWidth : Nat := 100

/-- Whether the meanings of options have to stand below them. -/
def standsBelow (items : List HelpItem) : Bool :=
  let taken := widest (items.map (·.label)) + 12
  lineWidth * 4 < taken * 10 && taken ≤ lineWidth &&
    items.any fun item => lineWidth - taken < item.meaning.length

/-- The letter of an option, in front of its label. -/
def HelpItem.opening (item : HelpItem) : String :=
  match item.short with
  | some letter => "  -" ++ String.ofList [letter] ++ ", "
  | none => "      "

/-- The lines of options. -/
def optionLines (items : List HelpItem) : List String :=
  if standsBelow items then
    items.flatMap fun item => [item.opening ++ item.label, spaces 10 ++ item.meaning]
  else
    let width := widest (items.map (·.label))
    items.map fun item => item.opening ++ padTo width item.label ++ "  " ++ item.meaning

/-- The lines of names with their meanings. -/
def nameLines (items : List (String × String)) : List String :=
  let width := widest (items.map (·.1))
  items.map fun (name, meaning) => "  " ++ padTo width name ++ "  " ++ meaning

/-- How a command is called. -/
def Command.usage (c : Command) : String :=
  "Usage: " ++ c.name ++ (if c.options.isEmpty then "" else " [OPTIONS]") ++
    (c.positional.map fun p => " <" ++ p.name ++ ">").getD "" ++
    (if c.inner.isEmpty then "" else " <COMMAND>")

/-- The lines of a command's help. -/
def Command.help (c : Command) (e : Environment) : List String :=
  [c.about, "", c.usage] ++
    (if c.inner.isEmpty then [] else ["", "Commands:"] ++ nameLines c.inner) ++
    ((c.positional.map fun p =>
      ["", "Arguments:"] ++ nameLines [("<" ++ p.name ++ ">", p.help)]).getD []) ++
    ["", "Options:"] ++ optionLines (c.optionItems e)

end Notary.CommandLine
