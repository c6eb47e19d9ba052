/-! # Quoted text

A text between single quotes, in which a backslash stands before every backslash and every quote.
Scanning from the opening quote to the first quote without a backslash gives the text back and
stops exactly there (`scan_quote`). -/

namespace OpenCypher.Text

/-- Whether a character cannot stand for itself between quotes. -/
def needsEscape (c : Char) : Bool := c == '\\' || c == '\''

/-- Puts a backslash before every character that needs one. -/
def escape : List Char → List Char
  | [] => []
  | c :: r => if needsEscape c then '\\' :: c :: escape r else c :: escape r

/-- The text between single quotes. -/
def quoteChars (s : List Char) : List Char := '\'' :: escape s ++ ['\'']

/-- The string between single quotes. -/
def quote (s : String) : String := String.ofList (quoteChars s.toList)

/-- Reads up to the first quote without a backslash: the text read, and what follows the quote.
A backslash makes the next character stand for itself. -/
def scanBody : List Char → Option (List Char × List Char)
  | [] => none
  | '\\' :: c :: r => (scanBody r).map fun p => (c :: p.1, p.2)
  | c :: r => if c = '\'' then some ([], r) else (scanBody r).map fun p => (c :: p.1, p.2)

/-- Reads a quoted text at the start of the input: the text, and the rest of the input. -/
def scan : List Char → Option (List Char × List Char)
  | [] => none
  | c :: r => if c = '\'' then scanBody r else none

@[simp] theorem toList_quote (s : String) : (quote s).toList = quoteChars s.toList := by
  simp [quote]

theorem scanBody_escape (s rest : List Char) :
    scanBody (escape s ++ '\'' :: rest) = some (s, rest) := by
  induction s with
  | nil => simp [escape, scanBody]
  | cons c r ih =>
    by_cases h : needsEscape c = true
    · simp [escape, h, scanBody, ih]
    · have h1 : c ≠ '\\' := by rintro rfl; exact h rfl
      have h2 : c ≠ '\'' := by rintro rfl; exact h rfl
      simp [escape, h, scanBody, h1, h2, ih]

theorem scan_quote (s rest : List Char) : scan (quoteChars s ++ rest) = some (s, rest) := by
  simp [quoteChars, scan, scanBody_escape]

end OpenCypher.Text
