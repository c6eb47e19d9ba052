import OpenCypher.Error
import OpenCypher.Json.Reader

/-! # Reading settings documents

A settings document is an object of named settings, or an array of them in their fixed order.
Settings that are left out keep their defaults, names that stand for no setting are passed over
together with their values, and a setting given twice makes the document unreadable. -/

namespace OpenCypher

open Json

/-! ### Parts of a document -/

namespace Json.Tree

/-- The values of an object or of an array under the given names.  An object may hold other names
as well; an array lists the values in the order of the names and may end early. -/
def fields? (names : List String) : Tree → Option (Entries Tree)
  | .object members => do
    let named ← members.mapM fun (k, t) => (string? k).map fun name => (name, t)
    let known := named.filter fun p => p.1 ∈ names
    guard (Entries.keys known).Nodup
    return known
  | .array items => do
    guard (items.length ≤ names.length)
    return names.zip items
  | _ => none

/-- The choice that a name stands for, given as a string or as the only name of an object. -/
def choice? {α : Type} (name : α → String) (choices : List α) : Tree → Option α
  | .string ps => do
    let s ← string? ps
    choices.find? fun c => name c = s
  | .object [(ps, .null)] => do
    let s ← string? ps
    choices.find? fun c => name c = s
  | _ => none

/-- What a reader makes of the value under a name; `default` if there is no value. -/
def field? {α : Type} (m : Entries Tree) (name : String) (read? : Tree → Option α) (default : α) :
    Option α :=
  match Entries.get? name m with
  | some t => read? t
  | none => some default

end Json.Tree

/-! ### Settings -/

/-- The spelling of literals that a part of a document asks for. -/
def LiteralStyle.ofTree? (t : Tree) : Option LiteralStyle := do
  let m ← t.fields? ["nan_policy", "boolean_style"]
  let nonFinite ← Tree.field? m "nan_policy" (Tree.choice? NonFinite.name [.reject, .null]) .reject
  let booleans ← Tree.field? m "boolean_style"
    (Tree.choice? BooleanStyle.name [.capitalized, .lowercase]) .capitalized
  return ⟨nonFinite, booleans⟩

namespace Settings

/-- The settings that a syntax tree asks for. -/
def ofTree? (t : Tree) : Option Settings := do
  let m ← t.fields? ["dialect", "codec"]
  let dialect ← Tree.field? m "dialect" (Tree.choice? Dialect.name [.memgraph, .neo4j]) .memgraph
  let literals ← Tree.field? m "codec" LiteralStyle.ofTree? {}
  return ⟨dialect, literals⟩

/-- The settings that a document asks for. -/
def read (document : String) : Except Error Settings :=
  match (Tree.read? document).bind ofTree? with
  | some s => .ok s
  | none => .error .malformedSettings

end Settings
end OpenCypher
