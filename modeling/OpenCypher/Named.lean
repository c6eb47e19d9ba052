/-! # Things and their names -/

namespace OpenCypher

/-- A thing itself, or a text that is to name one. -/
inductive Named (α : Type) where
  | exactly (a : α)
  | called (text : String)
deriving DecidableEq, Repr

/-- The thing that is meant, where `read` finds the thing of a name. -/
def Named.resolve {α ε : Type} (read : String → Except ε α) : Named α → Except ε α
  | exactly a => .ok a
  | called text => read text

end OpenCypher
