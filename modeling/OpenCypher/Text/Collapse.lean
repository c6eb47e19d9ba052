import OpenCypher.Text.Blank

/-! # Collapsing blanks

A finished query carries no blank at its ends and no two adjacent blanks.  A single blank
between two words stays the character that it is; a longer run becomes one space. -/

namespace OpenCypher.Text

/-- Writes `s`, where `gap` is the blank that stands for the run read so far.  A run that reaches
the end of the text is dropped. -/
def collapseFrom : Option Char → List Char → List Char
  | _, [] => []
  | gap, c :: r =>
    if isBlank c then collapseFrom (some (if gap.isSome then ' ' else c)) r
    else gap.toList ++ c :: collapseFrom none r

/-- The text without blanks at its ends, and with one space for every run of two or more. -/
def collapse (s : List Char) : List Char := collapseFrom none (s.dropWhile isBlank)

/-- Collapses the blanks of a string. -/
def collapseBlanks (s : String) : String := String.ofList (collapse s.toList)

@[simp] theorem toList_collapseBlanks (s : String) :
    (collapseBlanks s).toList = collapse s.toList := by simp [collapseBlanks]

example : collapse "  a \t b\tc\n ".toList = "a b\tc".toList := by decide

end OpenCypher.Text
