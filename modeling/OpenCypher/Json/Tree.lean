import OpenCypher.Json.Number

/-! # JSON syntax

The syntax tree of a JSON text.  Numbers and strings stay as they are written, since a reader that
passes over a part of a document does not ask what they stand for.

A text is cut into tokens, each of which takes at least one character
(`length_readToken_lt`), and the tokens are gathered into a tree. -/

namespace OpenCypher.Json

/-- A piece of a string: a character, or a sixteen-bit unit given by its number. -/
inductive Piece where
  | char (c : Char)
  | unit (n : Nat)

/-- A JSON value as it is written. -/
inductive Tree where
  | null
  | bool (b : Bool)
  | number (t : NumberText)
  | string (pieces : List Piece)
  | array (items : List Tree)
  | object (members : List (List Piece × Tree))

/-- The tokens of a JSON text. -/
inductive Token where
  | leftBracket
  | rightBracket
  | leftBrace
  | rightBrace
  | comma
  | colon
  | null
  | bool (b : Bool)
  | number (t : NumberText)
  | string (pieces : List Piece)

/-! ### Strings -/

/-- The value of a digit of base sixteen. -/
def hexValue? (c : Char) : Option Nat :=
  if c.isDigit then some (c.toNat - 48)
  else if 'a' ≤ c ∧ c ≤ 'f' then some (c.toNat - 87)
  else if 'A' ≤ c ∧ c ≤ 'F' then some (c.toNat - 55)
  else none

/-- The number of four digits of base sixteen. -/
def hexQuad? (a b c d : Char) : Option Nat := do
  return (← hexValue? a) * 4096 + (← hexValue? b) * 256 + (← hexValue? c) * 16 + (← hexValue? d)

/-- The character that a letter behind a backslash stands for. -/
def unescape? : Char → Option Char
  | '"' => some '"'
  | '\\' => some '\\'
  | '/' => some '/'
  | 'b' => some (Char.ofNat 8)
  | 'f' => some (Char.ofNat 12)
  | 'n' => some '\n'
  | 'r' => some '\r'
  | 't' => some '\t'
  | _ => none

/-- Reads a string up to its closing quote. -/
def readPieces : List Char → Option (List Piece × List Char)
  | [] => none
  | '"' :: r => some ([], r)
  | '\\' :: 'u' :: a :: b :: c :: d :: r => do
    let n ← hexQuad? a b c d
    let (ps, rest) ← readPieces r
    return (.unit n :: ps, rest)
  | '\\' :: e :: r => do
    let c ← unescape? e
    let (ps, rest) ← readPieces r
    return (.char c :: ps, rest)
  | c :: r =>
    if c.toNat < 32 then none
    else do
      let (ps, rest) ← readPieces r
      return (.char c :: ps, rest)

/-! ### Numbers -/

/-- Splits off the digits at the start of a text. -/
def readDigits (s : List Char) : List Char × List Char :=
  (s.takeWhile Char.isDigit, s.dropWhile Char.isDigit)

/-- Reads the digits before the point.  No zero stands in front of other digits. -/
def readWhole (s : List Char) : Option (List Char × List Char) :=
  let (ds, rest) := readDigits s
  if ds.isEmpty || (ds.length ≠ 1 && ds.head? = some '0') then none else some (ds, rest)

/-- Reads a fraction, if a point follows. -/
def readFraction : List Char → Option (List Char × List Char)
  | '.' :: r =>
    let (ds, rest) := readDigits r
    if ds.isEmpty then none else some (ds, rest)
  | s => some ([], s)

/-- Reads the digits of an exponent. -/
def readExponentDigits (negative : Bool) (s : List Char) : Option (Option Int × List Char) :=
  let (ds, rest) := readDigits s
  if ds.isEmpty then none
  else some (some (if negative then -(Decimal.value ds : Int) else Decimal.value ds), rest)

/-- Reads an exponent with its sign, if the letter for one follows. -/
def readExponent : List Char → Option (Option Int × List Char)
  | [] => some (none, [])
  | c :: r =>
    if c = 'e' ∨ c = 'E' then
      match r with
      | '+' :: r => readExponentDigits false r
      | '-' :: r => readExponentDigits true r
      | r => readExponentDigits false r
    else some (none, c :: r)

/-- Reads a number without its sign. -/
def readMagnitude (negative : Bool) (s : List Char) : Option (NumberText × List Char) := do
  let (whole, r) ← readWhole s
  let (fraction, r) ← readFraction r
  let (exponent, r) ← readExponent r
  return (⟨negative, whole, fraction, exponent⟩, r)

/-! ### Tokens -/

/-- Whether a character may stand between tokens. -/
def isSpace (c : Char) : Bool := c = ' ' || c = '\n' || c = '\t' || c = '\r'

/-- What follows a given beginning of a text. -/
def dropWord : List Char → List Char → Option (List Char)
  | [], s => some s
  | _ :: _, [] => none
  | w :: ws, c :: r => if w = c then dropWord ws r else none

/-- Reads the token that starts with a character. -/
def readToken (c : Char) (r : List Char) : Option (Token × List Char) :=
  match c with
  | '[' => some (.leftBracket, r)
  | ']' => some (.rightBracket, r)
  | '\x7b' => some (.leftBrace, r)
  | '\x7d' => some (.rightBrace, r)
  | ',' => some (.comma, r)
  | ':' => some (.colon, r)
  | '"' => (readPieces r).map fun p => (.string p.1, p.2)
  | 'n' => (dropWord ['u', 'l', 'l'] r).map (.null, ·)
  | 't' => (dropWord ['r', 'u', 'e'] r).map (.bool true, ·)
  | 'f' => (dropWord ['a', 'l', 's', 'e'] r).map (.bool false, ·)
  | '-' => (readMagnitude true r).map fun p => (.number p.1, p.2)
  | c => (readMagnitude false (c :: r)).map fun p => (.number p.1, p.2)

/-! ### Progress -/

theorem length_readPieces_lt {s : List Char} {ps : List Piece} {rest : List Char}
    (h : readPieces s = some (ps, rest)) : rest.length < s.length := by
  fun_induction readPieces s generalizing ps rest with
  | case1 => simp at h
  | case2 => simp_all
  | case3 a b c d r ih =>
    simp only [Option.bind_eq_bind, Option.bind_eq_some_iff, Option.pure_def,
      Option.some.injEq] at h
    obtain ⟨_, _, p, hp, hq⟩ := h
    have := ih hp
    simp_all
    omega
  | case4 e r _ ih =>
    simp only [Option.bind_eq_bind, Option.bind_eq_some_iff, Option.pure_def,
      Option.some.injEq] at h
    obtain ⟨_, _, p, hp, hq⟩ := h
    have := ih hp
    simp_all
    omega
  | case5 => simp at h
  | case6 c r _ _ _ _ ih =>
    simp only [Option.bind_eq_bind, Option.bind_eq_some_iff, Option.pure_def,
      Option.some.injEq] at h
    obtain ⟨p, hp, hq⟩ := h
    have := ih hp
    simp_all
    omega

theorem length_readDigits_add (s : List Char) :
    (readDigits s).1.length + (readDigits s).2.length = s.length := by
  rw [← List.length_append]
  simp [readDigits]

theorem length_readWhole_lt {s ds rest : List Char} (h : readWhole s = some (ds, rest)) :
    rest.length < s.length := by
  have := length_readDigits_add s
  simp only [readWhole] at h
  split at h
  · cases h
  · next hne =>
    cases h
    have : (readDigits s).1.length ≠ 0 := fun h0 => by
      simp [List.eq_nil_of_length_eq_zero h0] at hne
    omega

theorem length_readFraction_le {s ds rest : List Char} (h : readFraction s = some (ds, rest)) :
    rest.length ≤ s.length := by
  unfold readFraction at h
  split at h
  · next r =>
    have := length_readDigits_add r
    simp only at h
    split at h
    · cases h
    · cases h
      simp only [List.length_cons]
      omega
  · cases h
    exact Nat.le_refl _

theorem length_readExponentDigits_le {negative : Bool} {s rest : List Char} {e : Option Int}
    (h : readExponentDigits negative s = some (e, rest)) : rest.length ≤ s.length := by
  have := length_readDigits_add s
  simp only [readExponentDigits] at h
  split at h
  · cases h
  · cases h
    omega

theorem length_readExponent_le {s rest : List Char} {e : Option Int}
    (h : readExponent s = some (e, rest)) : rest.length ≤ s.length := by
  unfold readExponent at h
  split at h
  · cases h
    exact Nat.le_refl _
  · split at h
    · split at h <;>
      · have := length_readExponentDigits_le h
        simp only [List.length_cons] at this ⊢
        omega
    · cases h
      exact Nat.le_refl _

theorem length_readMagnitude_lt {negative : Bool} {s rest : List Char} {t : NumberText}
    (h : readMagnitude negative s = some (t, rest)) : rest.length < s.length := by
  simp only [readMagnitude, Option.bind_eq_bind, Option.bind_eq_some_iff, Option.pure_def,
    Option.some.injEq] at h
  obtain ⟨w, hw, f, hf, e, he, hq⟩ := h
  have h0 := length_readWhole_lt hw
  have h1 := length_readFraction_le hf
  have h2 := length_readExponent_le he
  cases hq
  omega

theorem length_dropWord_le {w s rest : List Char} (h : dropWord w s = some rest) :
    rest.length ≤ s.length := by
  fun_induction dropWord w s with
  | case1 => simp_all
  | case2 => simp at h
  | case3 w ws r ih =>
    have := ih h
    simp only [List.length_cons]
    omega
  | case4 => simp at h

theorem length_readToken_lt {c : Char} {r rest : List Char} {t : Token}
    (h : readToken c r = some (t, rest)) : rest.length < r.length + 1 := by
  unfold readToken at h
  split at h <;>
    simp only [Option.map_eq_some_iff, Option.some.injEq, Prod.mk.injEq] at h
  case h_7 =>
    obtain ⟨p, hp, _, rfl⟩ := h
    have := length_readPieces_lt hp
    omega
  case h_11 =>
    obtain ⟨p, hp, _, rfl⟩ := h
    have := length_readMagnitude_lt hp
    omega
  case h_12 =>
    obtain ⟨p, hp, _, rfl⟩ := h
    simpa using length_readMagnitude_lt hp
  case h_8 | h_9 | h_10 =>
    obtain ⟨p, hp, _, rfl⟩ := h
    have := length_dropWord_le hp
    omega
  all_goals
    obtain ⟨_, rfl⟩ := h
    exact Nat.lt_succ_self _

/-- Cuts a text into tokens. -/
def tokens : List Char → Option (List Token)
  | [] => some []
  | c :: r =>
    if isSpace c then tokens r
    else
      match h : readToken c r with
      | none => none
      | some (t, rest) =>
        have := length_readToken_lt h
        (tokens rest).map (t :: ·)
termination_by s => s.length

/-! ### Trees -/

/-- A container that is still open: what it holds so far, the newest first.  An object waits for the
value of a name. -/
inductive Frame where
  | items (done : List Tree)
  | members (done : List (List Piece × Tree)) (name : List Piece)

mutual

/-- Reads on where a value has to start, inside some open containers. -/
def readValue : List Frame → List Token → Option Tree
  | frames, .null :: r => readAfter frames .null r
  | frames, .bool b :: r => readAfter frames (.bool b) r
  | frames, .number t :: r => readAfter frames (.number t) r
  | frames, .string ps :: r => readAfter frames (.string ps) r
  | frames, .leftBracket :: .rightBracket :: r => readAfter frames (.array []) r
  | frames, .leftBracket :: r => readValue (.items [] :: frames) r
  | frames, .leftBrace :: .rightBrace :: r => readAfter frames (.object []) r
  | frames, .leftBrace :: .string k :: .colon :: r => readValue (.members [] k :: frames) r
  | _, _ => none

/-- Reads on behind a value, inside some open containers. -/
def readAfter : List Frame → Tree → List Token → Option Tree
  | [], v, [] => some v
  | .items done :: frames, v, .comma :: r => readValue (.items (v :: done) :: frames) r
  | .items done :: frames, v, .rightBracket :: r => readAfter frames (.array (v :: done).reverse) r
  | .members done k :: frames, v, .comma :: .string k' :: .colon :: r =>
    readValue (.members ((k, v) :: done) k' :: frames) r
  | .members done k :: frames, v, .rightBrace :: r =>
    readAfter frames (.object ((k, v) :: done).reverse) r
  | _, _, _ => none

end

/-- The syntax tree of a text that holds one JSON value and nothing else. -/
def Tree.read? (text : String) : Option Tree := (tokens text.toList).bind (readValue [])

end OpenCypher.Json
