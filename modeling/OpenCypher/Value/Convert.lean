import OpenCypher.Error

/-! # Conversion to values

The types whose members can stand for values, and the conversions that can fail or that lose a
distinction. -/

namespace OpenCypher

open Calendar

namespace Value

/-- The 64-bit integer that equals a whole number. -/
def int64? (n : Int) : Option Int64 :=
  if Int64.minValue.toInt ≤ n ∧ n ≤ Int64.maxValue.toInt then some (Int64.ofInt n) else none

/-- The value of an integer, if 64 bits hold it. -/
def ofInt (n : Int) : Except Error Value :=
  match int64? n with
  | some i => .ok (.int i)
  | none => .error (.integerRange n)

mutual

/-- The value that stands for a JSON value.  A whole number beyond 64 bits becomes a binary
fraction. -/
def ofJson : Json → Value
  | .null => .null
  | .bool b => .bool b
  | .int n =>
    match int64? n with
    | some i => .int i
    | none => .float (Float.ofInt n)
  | .float x => .float x
  | .string s => .text s
  | .array items => .list (ofJsons items)
  | .object members => .map (ofMembers members)

/-- The values that stand for some JSON values. -/
def ofJsons : List Json → List Value
  | [] => []
  | j :: rest => ofJson j :: ofJsons rest

/-- The entries that stand for the members of a JSON object. -/
def ofMembers : List (String × Json) → List (String × Value)
  | [] => []
  | (k, j) :: rest => (k, ofJson j) :: ofMembers rest

end

/-- The value of a set: a list without repetitions, in ascending order of `key`. -/
def ofSet {α : Type} [Ord α] (toValue : α → Value) (members : List α) : Value :=
  .list ((members.mergeSort fun a b => (compare a b).isLE).foldr insertDistinct [] |>.map toValue)
where
  /-- Puts a member in front unless it stands there already. -/
  insertDistinct (a : α) : List α → List α
    | [] => [a]
    | b :: rest => if compare a b = .eq then b :: rest else a :: b :: rest

end Value

/-- Types whose members stand for values. -/
class ToValue (α : Type) where
  /-- The value that a member stands for. -/
  toValue : α → Value

export ToValue (toValue)

namespace ToValue

instance : ToValue Value := ⟨id⟩
instance : ToValue Unit := ⟨fun _ => .null⟩
instance : ToValue Bool := ⟨.bool⟩
instance : ToValue Int8 := ⟨fun n => .int n.toInt64⟩
instance : ToValue Int16 := ⟨fun n => .int n.toInt64⟩
instance : ToValue Int32 := ⟨fun n => .int n.toInt64⟩
instance : ToValue Int64 := ⟨.int⟩
instance : ToValue UInt8 := ⟨fun n => .int (Int64.ofNat n.toNat)⟩
instance : ToValue UInt16 := ⟨fun n => .int (Int64.ofNat n.toNat)⟩
instance : ToValue UInt32 := ⟨fun n => .int (Int64.ofNat n.toNat)⟩
instance : ToValue Float32 := ⟨fun x => .float x.toFloat⟩
instance : ToValue Float := ⟨.float⟩
instance : ToValue String := ⟨.text⟩
instance : ToValue Date := ⟨.date⟩
instance : ToValue TimeOfDay := ⟨.localTime⟩
instance : ToValue LocalDateTime := ⟨.localDateTime⟩
instance : ToValue DateTime := ⟨.dateTime⟩
instance : ToValue Duration := ⟨.duration⟩
instance : ToValue Json := ⟨Value.ofJson⟩

instance {α : Type} [ToValue α] : ToValue (Option α) := ⟨fun o => (o.map toValue).getD .null⟩
instance {α : Type} [ToValue α] : ToValue (List α) := ⟨fun l => .list (l.map toValue)⟩
instance {α : Type} [ToValue α] : ToValue (Entries α) :=
  ⟨fun m => .map (m.map fun p => (p.1, toValue p.2))⟩

end ToValue
end OpenCypher
