import OpenCypher.Calendar.Duration
import OpenCypher.Calendar.Moment
import OpenCypher.Decimal.Layout
import OpenCypher.Entries

/-! # Values

The values that can be written as openCypher literals or come back from a database. -/

namespace OpenCypher

open Calendar

/-- A value.  The entries of a map keep their order. -/
inductive Value where
  | null
  | bool (b : Bool)
  | int (n : Int64)
  | float (x : Float)
  | text (s : String)
  /-- A query variable, written without quotes. -/
  | ref (name : String)
  | list (items : List Value)
  | map (entries : List (String × Value))
  | date (d : Date)
  | localTime (t : TimeOfDay)
  | localDateTime (m : LocalDateTime)
  | dateTime (m : DateTime)
  | duration (d : Duration)
deriving Inhabited

/-- The properties of a node or a relationship. -/
abbrev Properties := Entries Value

namespace Value

/-- Numbers are written with a point from 0.0001 up to 10¹⁶, otherwise with an exponent, which has a
sign only if it is negative; an exact tie goes to the greater digit. -/
def numberLayout : Decimal.Layout := ⟨-4, 16, [], .up⟩

/-! ### Equality -/

mutual

/-- Whether two values are equal: numbers as numbers, so that no NaN equals itself; maps without
regard to order; moments by their instant. -/
def same : Value → Value → Bool
  | .null, .null => true
  | .bool a, .bool b => a == b
  | .int a, .int b => a == b
  | .float a, .float b => a == b
  | .text a, .text b => a == b
  | .ref a, .ref b => a == b
  | .list a, .list b => sameItems a b
  | .map a, .map b => a.length == b.length && sameEntries a b
  | .date a, .date b => a == b
  | .localTime a, .localTime b => a == b
  | .localDateTime a, .localDateTime b => a == b
  | .dateTime a, .dateTime b => a.instant == b.instant
  | .duration a, .duration b => a == b
  | _, _ => false

/-- Whether two lists hold equal values in the same order. -/
def sameItems : List Value → List Value → Bool
  | [], [] => true
  | a :: as, b :: bs => same a b && sameItems as bs
  | _, _ => false

/-- Whether every entry of the first map has an equal partner in the second. -/
def sameEntries : List (String × Value) → List (String × Value) → Bool
  | [], _ => true
  | (k, a) :: rest, m =>
    (match Entries.get? k m with
      | some b => same a b
      | none => false) && sameEntries rest m

end

instance : BEq Value := ⟨same⟩

/-! ### Looking inside -/

/-- Whether the value is null. -/
def isNull : Value → Bool
  | .null => true
  | _ => false

/-- The text of a text value. -/
def text? : Value → Option String
  | .text s => some s
  | _ => none

/-- The number of an integer value. -/
def int? : Value → Option Int64
  | .int n => some n
  | _ => none

/-- The truth value of a boolean. -/
def bool? : Value → Option Bool
  | .bool b => some b
  | _ => none

/-- The items of a list value. -/
def items? : Value → Option (List Value)
  | .list items => some items
  | _ => none

/-- The entries of a map value. -/
def entries? : Value → Option (Entries Value)
  | .map m => some m
  | _ => none

end Value
end OpenCypher
