import OpenCypher.Text.Blank

/-! # Words of a vocabulary

Comparing a text with a word where the case of ASCII letters does not count. -/

namespace OpenCypher.Text

/-- The text with its ASCII letters in lower case. -/
def lowered (s : List Char) : List Char := s.map Char.toLower

/-- Whether two texts differ in the case of ASCII letters at most. -/
def sameWord (s word : String) : Bool := lowered s.toList == lowered word.toList

/-- The string without blanks at its ends. -/
def trimmed (s : String) : String := String.ofList (trim s.toList)

@[simp] theorem toList_trimmed (s : String) : (trimmed s).toList = trim s.toList := by
  simp [trimmed]

end OpenCypher.Text
