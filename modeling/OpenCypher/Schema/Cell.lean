import OpenCypher.Connection

/-! # Cells of a listing

Reading the rows in which a database lists its schema. -/

namespace OpenCypher

namespace Row

/-- The text in a column; none if the cell is absent or null.  A list of one text counts as that
text. -/
def text? (column : String) (row : Row) : Except Error (Option String) :=
  match Entries.get? column row with
  | none | some .null => .ok none
  | some (.text s) | some (.list [.text s]) => .ok (some s)
  | some (.list [v]) | some v => .error (.unexpectedCell column v)

/-- The text in a column, which must be there. -/
def text (column : String) (row : Row) : Except Error String := do
  match ← row.text? column with
  | some s => return s
  | none => throw (.absentCell column)

/-- The text of a member of a list in a column. -/
def memberText (column : String) : Value → Except Error String
  | .text s => .ok s
  | v => .error (.unexpectedCell column v)

/-- The texts in a column: none if the cell is absent or null, and one if it is a text. -/
def texts (column : String) (row : Row) : Except Error (List String) :=
  match Entries.get? column row with
  | none | some .null => .ok []
  | some (.text s) => .ok [s]
  | some (.list items) => items.mapM (memberText column)
  | some v => .error (.unexpectedCell column v)

end Row

/-- What `decode` makes of the rows, without those that it passes over; or the first error, be it in
the place of a row or in decoding one. -/
def Rows.decode {α : Type} (decode : Row → Except Error (Option α)) : Rows → Except Error (List α)
  | [] => .ok []
  | .error e :: _ => .error e
  | .ok row :: rest => do
    let item ← decode row
    let items ← Rows.decode decode rest
    return item.toList ++ items

end OpenCypher
