import OpenCypher.Connection

/-! # Pools of connections

Several connections, one of which can be the default. -/

namespace OpenCypher

/-- Connections that are told apart by a member of `ι`. -/
structure Pool (ι σ : Type) where
  member : ι → σ
  default : Option ι := none

namespace Pool

variable {ι σ α : Type}

/-- Makes a connection the default. -/
def setDefault (i : ι) (p : Pool ι σ) : Pool ι σ := { p with default := some i }

/-- Leaves the pool without a default. -/
def clearDefault (p : Pool ι σ) : Pool ι σ := { p with default := none }

/-- The default connection; an error if there is none. -/
def getDefault : Session (Pool ι σ) ι := fun p =>
  match p.default with
  | some i => (.ok i, p)
  | none => (.error .noDefaultConnection, p)

variable [DecidableEq ι]

/-- An activity on one of the connections. -/
def onMember (i : ι) (act : Session σ α) : Session (Pool ι σ) α := fun p =>
  let (result, state) := act.run (p.member i)
  (result, { p with member := fun j => if j = i then state else p.member j })

/-- An activity on the default connection. -/
def onDefault (act : Session σ α) : Session (Pool ι σ) α := do
  let i ← getDefault
  onMember i act

end Pool
end OpenCypher
