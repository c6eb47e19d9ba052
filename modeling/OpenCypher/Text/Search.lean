/-! # Words inside a text -/

namespace OpenCypher.Text

/-- Whether a word occurs in a text. -/
def occurs (word : List Char) : List Char → Bool
  | [] => word.isEmpty
  | c :: r => word.isPrefixOf (c :: r) || occurs word r

theorem occurs_iff {word s : List Char} : occurs word s = true ↔ word <:+: s := by
  induction s with
  | nil => simp [occurs]
  | cons c r ih => simp [occurs, ih, List.infix_cons_iff]

end OpenCypher.Text
