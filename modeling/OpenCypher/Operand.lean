import OpenCypher.Value.Literal

/-! # Operands

The right-hand side of a condition or an assignment. -/

namespace OpenCypher

/-- A value or an expression.  Only one of the two may be given. -/
structure Operand where
  literal : Option Value := none
  expression : Option String := none
deriving Inhabited

/-- The text of an operand in the clause of the given name. -/
def Operand.text (style : LiteralStyle) (clause : String) : Operand → Except Error String
  | ⟨some value, none⟩ => value.literal style
  | ⟨none, some expression⟩ => .ok expression
  | ⟨none, none⟩ => .error (.missingOperand clause)
  | ⟨some _, some _⟩ => .error (.conflictingOperand clause)

end OpenCypher
