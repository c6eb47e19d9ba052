import OpenCypher.Connection.Recording

/-! # Traced connections

A connection of any kind together with the calls that were made on it.  It answers as the
connection does, and puts every call down, whatever comes of it (`execute_eq`, `fetch_eq`). -/

namespace OpenCypher

/-- A connection with the calls that were made on it, the oldest first. -/
structure Traced (σ : Type) where
  inner : σ
  calls : List Call := []

namespace Traced

variable {σ α : Type}

/-- An activity on the connection, put down as a call. -/
def onInner (call : Call) (act : Session σ α) : Session (Traced σ) α := fun t =>
  let (result, inner) := act.run t.inner
  (result, ⟨inner, t.calls ++ [call]⟩)

instance [Connection σ] : Connection (Traced σ) where
  execute query parameters :=
    onInner ⟨query, parameters, false⟩ (Connection.execute query parameters)
  fetch query parameters := onInner ⟨query, parameters, true⟩ (Connection.fetch query parameters)

theorem onInner_eq {call : Call} {act : Session σ α} {t : Traced σ} {x : Except Error α} {s : σ}
    (h : act t.inner = (x, s)) : onInner call act t = (x, ⟨s, t.calls ++ [call]⟩) := by
  unfold onInner ExceptT.run
  rw [h]

variable [Connection σ] {query : String} {parameters : Entries Value} {t : Traced σ} {s : σ}

theorem execute_eq {x : Except Error Unit}
    (h : Connection.execute query parameters t.inner = (x, s)) :
    Connection.execute query parameters t =
      (x, ⟨s, t.calls ++ [⟨query, parameters, false⟩]⟩) := onInner_eq h

theorem fetch_eq {x : Except Error Rows}
    (h : Connection.fetch query parameters t.inner = (x, s)) :
    Connection.fetch query parameters t =
      (x, ⟨s, t.calls ++ [⟨query, parameters, true⟩]⟩) := onInner_eq h

end Traced
end OpenCypher
