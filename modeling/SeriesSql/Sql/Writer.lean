import SeriesSql.Error

/-!
# Writing a statement

A writer appends to the text of a statement, piece by piece, until it is done or meets an error.
What it appended before the error stays in the text.
-/

namespace SeriesSql

/-- A step that appends to a text or stops at an error. -/
abbrev Writer := ExceptT SqlError (StateM String)

namespace Writer

def emit (piece : String) : Writer Unit :=
  modify (· ++ piece)

/-- Appends a piece of text, or stops at the error that there is instead. -/
def emitResult : Except SqlError String → Writer Unit
  | .ok piece => emit piece
  | .error e => throw e

def require : Except SqlError Unit → Writer Unit
  | .ok () => pure ()
  | .error e => throw e

/-- Writes each item, and a separator between two of them. -/
def separated {α : Type} (separator : String) (write : α → Writer Unit) : List α → Writer Unit
  | [] => pure ()
  | [item] => write item
  | item :: rest => do
    write item
    emit separator
    separated separator write rest

/-- Appends to a text. Gives the text afterwards, and the error if the writer stopped at one. -/
def appendTo (writer : Writer Unit) (text : String) : String × Option SqlError :=
  match (writer.run.run text) with
  | (.ok (), text) => (text, none)
  | (.error e, text) => (text, some e)

def toSql (writer : Writer Unit) : Except SqlError String :=
  match writer.appendTo "" with
  | (text, none) => .ok text
  | (_, some e) => .error e

end Writer
end SeriesSql
