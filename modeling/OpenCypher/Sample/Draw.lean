import OpenCypher.Sample.Chain

/-! # Drawing sample chains

Chains whose contents are drawn with a generator of pseudorandom numbers, so that a seed determines
its chain. -/

namespace OpenCypher.Sample

/-- A draw with a generator of pseudorandom numbers. -/
abbrev Draw := StateM StdGen

/-- The shape and the size of a chain. -/
inductive Shape where
  | path (hops : Nat)
  | filtered (conditions : Nat)
  | mixed (pieces : Nat)
deriving DecidableEq, Repr

namespace Draw

/-- A number from `low` to `low + count`. -/
def number (low count : Nat) : Draw Nat := do
  let (n, g) := randNat (← get) low (low + count)
  set g
  return n

/-- Whether something happens that happens so many times in a hundred. -/
def chance (percent : Nat) : Draw Bool := return (← number 0 99) < percent

/-- One of the five words of a list. -/
def choice : Draw Choice := return Fin.ofNat 5 (← number 0 4)

/-- A number of draws of one kind. -/
def replicate {α : Type} (draw : Draw α) : Nat → Draw (List α)
  | 0 => return []
  | n + 1 => do
    let a ← draw
    let rest ← replicate draw n
    return a :: rest

/-- A value; a fraction lies between -100 and 100 and has three places. -/
def cell : Draw Cell := do
  match ← number 0 4 with
  | 0 => return .int (Int64.ofNat (← number 0 1999) - 1000)
  | 1 =>
    let x := Float.ofInt ((← number 0 199999 : Nat) - 100000) / 1000
    return if h : x.isFinite = true then .float x h else .int 0
  | 2 => return .bool (← chance 50)
  | 3 => return .text (← number 0 9)
  | _ => return .list (Int64.ofNat (← number 0 9))

/-- A node, every second one with a property. -/
def node : Draw Node := do
  let label ← choice
  if ← chance 50 then return ⟨label, some (← choice, ← cell)⟩
  else return ⟨label, none⟩

/-- A relationship, every fifth one reached by a search. -/
def hop : Draw Hop := do
  let type ← choice
  let search ← if ← chance 20 then some <$> number 2 7 else pure none
  return ⟨type, search, ← chance 50, ← node⟩

/-- A condition. -/
def condition : Draw Condition := do
  let property ← choice
  let cell ← cell
  let joint ← number 0 3
  return ⟨property, cell,
    match joint with
    | 0 => .and
    | 1 => .or
    | 2 => .notXor
    | _ => .andNot⟩

/-- A blank. -/
def blank : Draw Blank := do
  match ← number 0 2 with
  | 0 => return .space
  | 1 => return .tab
  | _ => return .newline

/-- Up to three blanks. -/
def blanks : Draw (List Blank) := do replicate blank (← number 0 3)

/-- A piece of a mixed chain. -/
def piece : Draw Piece := do
  match ← number 0 7 with
  | 0 => return .node (← node)
  | 1 => return .relationship (← choice)
  | 2 => return .pass
  | 3 => return .unwind
  | 4 => return .set (← choice) (← cell)
  | 5 => return .orderBy (← choice)
  | 6 => return .skip (← number 0 49)
  | _ => return .delete (← chance 50)

/-- A chain of a shape. -/
def chain : Shape → Draw Chain
  | .path hops => return .path (← node) (← replicate hop hops)
  | .filtered conditions =>
    return .filtered (← choice) (← replicate condition conditions) (← number 1 98)
  | .mixed pieces => do
    let optional ← chance 30
    let pieces ← replicate (do return (← blanks, ← piece)) pieces
    return .mixed optional pieces (← blanks)

end Draw

/-- The chain of a shape that a seed determines. -/
def Chain.ofSeed (shape : Shape) (seed : Nat) : Chain :=
  ((Draw.chain shape).run (mkStdGen seed)).1

end OpenCypher.Sample
