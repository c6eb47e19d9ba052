/-! # Blank characters

The characters with the Unicode property White_Space, and the removal of blanks at the ends of
a text. -/

namespace OpenCypher.Text

/-! ### The table -/

/-- The code points of the property White_Space: closed ranges, ascending and apart. -/
def blankRanges : List (Nat × Nat) :=
  [(0x09, 0x0D), (0x20, 0x20), (0x85, 0x85), (0xA0, 0xA0), (0x1680, 0x1680), (0x2000, 0x200A),
   (0x2028, 0x2029), (0x202F, 0x202F), (0x205F, 0x205F), (0x3000, 0x3000)]

/-- Whether a code point lies in one of some closed ranges. -/
def inRanges (ranges : List (Nat × Nat)) (n : Nat) : Bool :=
  ranges.any fun r => r.1 ≤ n && n ≤ r.2

/-- Whether a character is blank. -/
def isBlank (c : Char) : Bool := inRanges blankRanges c.toNat

theorem isBlank_space : isBlank ' ' = true := by decide

/-! ### Ends of a text -/

/-- Drops the blanks at the end of a text. -/
def trimEnd : List Char → List Char
  | [] => []
  | c :: r =>
    match trimEnd r with
    | [] => if isBlank c then [] else [c]
    | d :: t => c :: d :: t

/-- Drops the blanks at both ends of a text. -/
def trim (s : List Char) : List Char := trimEnd (s.dropWhile isBlank)

/-- Whether a text holds no other characters than blanks. -/
def isAllBlank (s : List Char) : Bool := s.all isBlank

theorem trimEnd_eq_nil_iff {s : List Char} : trimEnd s = [] ↔ isAllBlank s = true := by
  induction s with
  | nil => simp [trimEnd, isAllBlank]
  | cons c r ih =>
    unfold trimEnd
    split
    · next h => simp_all [isAllBlank]
    · next h => simp_all [isAllBlank]

end OpenCypher.Text
