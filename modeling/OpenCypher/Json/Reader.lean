import OpenCypher.Json.Tree

/-! # Reading JSON values

The value that a syntax tree stands for.  A tree stands for no value if a string holds half of a
surrogate pair, if a number is too large, or if its containers are nested too deep. -/

namespace OpenCypher.Json

/-! ### Strings -/

/-- The text of a string.  Two units that form a surrogate pair are one character; either alone is
none. -/
def text? : List Piece → Option (List Char)
  | [] => some []
  | .char c :: rest => (text? rest).map (c :: ·)
  | .unit n :: rest =>
    if n < 0xD800 ∨ 0xE000 ≤ n then (text? rest).map (Char.ofNat n :: ·)
    else if n < 0xDC00 then
      match rest with
      | .unit m :: rest =>
        if 0xDC00 ≤ m ∧ m < 0xE000 then
          (text? rest).map (Char.ofNat (0x10000 + (n - 0xD800) * 0x400 + (m - 0xDC00)) :: ·)
        else none
      | _ => none
    else none

/-- The text of a string, as a string. -/
def string? (ps : List Piece) : Option String := (text? ps).map String.ofList

/-! ### Depth -/

namespace Tree

mutual

/-- How many containers lie inside each other. -/
def depth : Tree → Nat
  | .array items => 1 + depthItems items
  | .object members => 1 + depthMembers members
  | _ => 0

/-- The greatest depth of some items. -/
def depthItems : List Tree → Nat
  | [] => 0
  | t :: rest => max (depth t) (depthItems rest)

/-- The greatest depth of the values of some members. -/
def depthMembers : List (List Piece × Tree) → Nat
  | [] => 0
  | (_, t) :: rest => max (depth t) (depthMembers rest)

end

/-- The greatest depth that is read. -/
def maxDepth : Nat := 127

/-! ### Values -/

mutual

/-- The value that a tree stands for, whatever its depth. -/
def value? : Tree → Option Json
  | .null => some .null
  | .bool b => some (.bool b)
  | .number t => t.toJson?
  | .string ps => (string? ps).map .string
  | .array items => (valueItems? items).map .array
  | .object members => (valueMembers? members).map fun ms => .object (Entries.sorted ms)

/-- The values of some items. -/
def valueItems? : List Tree → Option (List Json)
  | [] => some []
  | t :: rest => do
    let v ← value? t
    let vs ← valueItems? rest
    return v :: vs

/-- The names and values of some members. -/
def valueMembers? : List (List Piece × Tree) → Option (List (String × Json))
  | [] => some []
  | (k, t) :: rest => do
    let name ← string? k
    let v ← value? t
    let vs ← valueMembers? rest
    return (name, v) :: vs

end

end Tree

/-- The value of a text that holds one JSON value and nothing else. -/
def read? (text : String) : Option Json := do
  let t ← Tree.read? text
  guard (t.depth ≤ Tree.maxDepth)
  t.value?

end OpenCypher.Json
