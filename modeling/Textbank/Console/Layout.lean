import Textbank.Console.Paint
import Textbank.Report
import Textbank.Text.Column
/-!
# Layout

How the parts of a report are laid out on lines of a hundred columns.  The title of a bank and the
value of an entry are cut to the room that the other parts of their lines leave (`titleRoom`,
`valueRoom`).
-/

namespace Textbank.Console

/-- The columns of a line. -/
def lineWidth : Nat := 100

/-- A number of blanks. -/
def blanks (n : Nat) : List Char := List.replicate n ' '

/-- The shade of a message. -/
def shadeOf : Level → Shade
  | .info => .dim
  | .success => .green
  | .warning => .yellow

/-- A line for each message. -/
def messageLines (colored : Bool) (messages : List Message) : List Char :=
  messages.flatMap fun m => paint colored (shadeOf m.level) m.content.toList ++ ['\n']

/-! ### Banks -/

section

variable (m : Measure)

/-- The number of values of a bank, in words. -/
def countText (b : Summary) : List Char := (Numeral.decimal b.entryCount ++ " entries").toList

/-- The columns that the line of a bank needs beside its title. -/
def columnsTaken (b : Summary) : Nat := m.text b.stem.toList + m.text (countText b) + 4

/-- The columns that the title of a bank can fill. -/
def titleRoom (b : Summary) : Nat := lineWidth - columnsTaken m b

/-- The title of a bank, cut if need be. -/
def titleText (b : Summary) : List Char := m.truncate (titleRoom m b) b.title.toList

/-- The line of a bank: a mark if it has unsaved changes, its name, its title, and at the right end
the number of its values. -/
def bankLine (colored : Bool) (b : Summary) : List Char :=
  let title := titleText m b
  paint colored .red [if b.unsaved then '*' else ' '] ++ paint colored .yellow b.stem.toList ++ [' ']
    ++ paint colored .bold title ++ blanks (lineWidth - (columnsTaken m b + m.text title)) ++ [' ']
    ++ paint colored .dim (countText b) ++ ['\n']

/-- A line for each bank. -/
def bankLines (colored : Bool) (banks : List Summary) : List Char :=
  if banks = [] then "No banks found.\n".toList else banks.flatMap (bankLine m colored)

/-! ### Values -/

/-- The columns that the value of an entry can fill. -/
def valueRoom (c : Config) (e : Entry) : Nat :=
  lineWidth - (m.text (c.entryLabel e.register e.address).toList + 2)

/-- The value of an entry, cut if need be. -/
def valueText (c : Config) (e : Entry) : List Char := m.truncate (valueRoom m c e) e.value.toList

/-- The line of a value. -/
def rowLine (colored : Bool) (c : Config) (e : Entry) : List Char :=
  blanks 2 ++ paint colored .yellow (c.entryLabel e.register e.address).toList ++ [' ']
    ++ valueText m c e ++ ['\n']

/-- A line for each value. -/
def rowLines (colored : Bool) (c : Config) (rows : List Entry) : List Char :=
  if rows = [] then "No entries.\n".toList else rows.flatMap (rowLine m colored c)

end

/-! ### Settings -/

/-- The columns of the names of settings. -/
def settingWidth : Nat := 10

/-- A line for each setting. -/
def configLines (colored : Bool) (c : Config) : List Char :=
  c.fields.flatMap fun (name, value) =>
    paint colored .dim (name.toList ++ blanks (settingWidth - name.length)) ++ [' ']
      ++ value.plain.toList ++ ['\n']

end Textbank.Console
