import OpenCypher.Proofs.Query.Addition
import OpenCypher.Proofs.Text.Alike

/-! # Calls on a subgraph

A subgraph is written in two ways: in one piece, and as the fragments in front of a call on it.
Where the fragments meet, two blanks stand in the place of one, so that both come to the same text
in a query; and both fail on the same account (`subgraph_call_agrees`). -/

namespace OpenCypher

open Text

/-! ### The subgraph in one piece -/

namespace Subgraph
variable {s : Subgraph}

theorem text_eq_ok_iff {t : String} :
    s.text = .ok t ↔
      ∃ path, s.pathClause = .ok path ∧ "MATCH " ++ path ++ " WITH project(p) AS graph" = t := by
  unfold text
  simp only [bind_eq_ok_iff, pure_eq_ok_iff]
  have hwith : ∀ path, "MATCH " ++ path ++ " WITH " ++ projected ++ " AS " ++ graphVariable =
      "MATCH " ++ path ++ " WITH project(p) AS graph" := by
    intro path
    have hsuffix : " WITH " ++ projected ++ " AS " ++ graphVariable =
        " WITH project(p) AS graph" := by decide +kernel
    rw [← hsuffix]
    simp only [String.append_assoc]
  simp only [hwith]

theorem text_eq_error_iff {e : Error} : s.text = .error e ↔ s.pathClause = .error e :=
  bind_pure_eq_error_iff

end Subgraph

/-! ### The fragments of a call -/

/-- The fragments of a call on the paths of a clause. -/
def callFragments (path procedure arguments : String) : List Fragment :=
  [.clause (.matching false), .raw (" " ++ path ++ " "),
    .clause (.pass (.pair Subgraph.projected Subgraph.graphVariable)),
    .clause (.call procedure arguments)]

/-- The fragments join to the text in one piece, with a second blank at each border. -/
theorem joined_callFragments (path procedure arguments : String) :
    Fragment.joined (callFragments path procedure arguments) =
      " MATCH".toList ++ [' ', ' '] ++ path.toList ++ [' ', ' '] ++
        "WITH project(p) AS graph".toList ++ [' ', ' '] ++
          ("CALL " ++ procedure ++ "(" ++ arguments ++ ")").toList ++ [' '] := by
  have hmatch : (Clause.matching false).text.toList = " MATCH".toList ++ [' '] := rfl
  have hspace : " ".toList = [' '] := rfl
  have hpass : (Clause.pass (.pair Subgraph.projected Subgraph.graphVariable)).text.toList =
      [' '] ++ "WITH project(p) AS graph".toList ++ [' '] := by decide +kernel
  have hcall : (Clause.call procedure arguments).text =
      " CALL " ++ procedure ++ "(" ++ arguments ++ ") " := rfl
  have hopen : " CALL ".toList = [' '] ++ "CALL ".toList := rfl
  have hclose : ") ".toList = ")".toList ++ [' '] := rfl
  simp only [callFragments, Fragment.joined_cons, Fragment.joined_nil, Fragment.text, hmatch,
    hpass, hcall, String.toList_append, hspace, hopen, hclose, List.append_assoc, List.cons_append,
    List.nil_append]

theorem collapse_append_callFragments (front : List Char) (path procedure arguments : String) :
    collapse (front ++ Fragment.joined (callFragments path procedure arguments)) =
      collapse (front ++ (" " ++ ("MATCH " ++ path ++ " WITH project(p) AS graph") ++ " CALL " ++
        procedure ++ "(" ++ arguments ++ ")").toList) := by
  have hblanks : Alike [' ', ' '] [' '] := alike_space_append rfl
  have h := ((((Alike.refl " MATCH".toList).append hblanks).append (.refl path.toList)).append
    hblanks).append (.refl "WITH project(p) AS graph".toList) |>.append hblanks |>.append
      (.refl ("CALL " ++ procedure ++ "(" ++ arguments ++ ")").toList)
  have hone : (" " ++ ("MATCH " ++ path ++ " WITH project(p) AS graph") ++ " CALL " ++
      procedure ++ "(" ++ arguments ++ ")").toList =
        " MATCH".toList ++ [' '] ++ path.toList ++ [' '] ++
          "WITH project(p) AS graph".toList ++ [' '] ++
            ("CALL " ++ procedure ++ "(" ++ arguments ++ ")").toList := by
    have hmatch : " ".toList ++ "MATCH ".toList = " MATCH".toList ++ [' '] := rfl
    have hwith : " WITH project(p) AS graph".toList =
        [' '] ++ "WITH project(p) AS graph".toList := rfl
    have hcall : " CALL ".toList = [' '] ++ "CALL ".toList := rfl
    simp only [String.toList_append, hwith, hcall, ← List.append_assoc, hmatch]
  rw [joined_callFragments, ← List.append_assoc, collapse_append_of_isAllBlank rfl, hone]
  have e := h.collapse_eq front []
  rw [List.append_nil, List.append_nil] at e
  exact e

namespace Query

/-! ### The two texts -/

theorem text_extend_callFragments (q : Query) (step : Step) (path procedure arguments : String) :
    (q.extend step (callFragments path procedure arguments)).text =
      collapseBlanks (q.rawText ++ " " ++ ("MATCH " ++ path ++ " WITH project(p) AS graph") ++
        " CALL " ++ procedure ++ "(" ++ arguments ++ ")") := by
  rw [← String.toList_inj, toList_text, toList_rawText_extend, collapse_append_callFragments,
    toList_collapseBlanks, ← String.toList_append]
  simp only [String.append_assoc]

section memgraph
variable {q r : Query} (h : q.settings.dialect = .memgraph) {subgraph : Subgraph}
  {procedure : String} {arguments : Arguments}
include h

theorem require_of_memgraph (feature : Feature) : q.settings.require feature = .ok () :=
  Settings.require_eq_ok_iff.mpr (by rw [h]; rfl)

theorem apply_callOn_eq_ok_iff :
    q.apply (.callOn subgraph procedure arguments) = .ok r ↔
      ∃ path t, subgraph.pathClause = .ok path ∧
        (arguments.prepend "graph").text q.settings.literals = .ok t ∧
          r = q.extend (.callOn subgraph procedure arguments) (callFragments path procedure t) := by
  rw [apply_eq_ok_iff, Step.fragments, require_of_memgraph h, ok_bind]
  simp only [bind_eq_ok_iff, pure_eq_ok_iff]
  constructor
  · rintro ⟨_, ⟨path, hpath, t, ht, rfl⟩, rfl⟩
    exact ⟨path, t, hpath, ht, rfl⟩
  · rintro ⟨path, t, hpath, ht, rfl⟩
    exact ⟨_, ⟨path, hpath, t, ht, rfl⟩, rfl⟩

theorem apply_callOn_eq_error_iff {e : Error} :
    q.apply (.callOn subgraph procedure arguments) = .error e ↔
      subgraph.pathClause = .error e ∨ ∃ path, subgraph.pathClause = .ok path ∧
        (arguments.prepend "graph").text q.settings.literals = .error e := by
  rw [apply_eq_error_iff, Step.fragments, require_of_memgraph h, ok_bind, bind_eq_error_iff]
  simp only [bind_pure_eq_error_iff]
  rfl

end memgraph

/-- **A call on a subgraph writes it as it is written in one piece.**  Under Memgraph the call
succeeds just if the subgraph and the arguments, with the variable of the subgraph in front, have
texts of their own, and then the text of the query is made of theirs; if it fails, then as the
subgraph does, or else as the arguments do. -/
theorem subgraph_call_agrees {q : Query} (h : q.settings.dialect = .memgraph)
    (subgraph : Subgraph) (procedure : String) (arguments : Arguments) :
    ((∃ r, q.apply (.callOn subgraph procedure arguments) = .ok r) ↔
      (∃ s, subgraph.text = .ok s) ∧
        ∃ t, (arguments.prepend "graph").text q.settings.literals = .ok t) ∧
    (∀ r s t, q.apply (.callOn subgraph procedure arguments) = .ok r → subgraph.text = .ok s →
      (arguments.prepend "graph").text q.settings.literals = .ok t →
        r.text = collapseBlanks
          (q.rawText ++ " " ++ s ++ " CALL " ++ procedure ++ "(" ++ t ++ ")")) ∧
    ∀ e, q.apply (.callOn subgraph procedure arguments) = .error e ↔
      subgraph.text = .error e ∨ (∃ s, subgraph.text = .ok s) ∧
        (arguments.prepend "graph").text q.settings.literals = .error e := by
  have hok : (∃ s, subgraph.text = .ok s) ↔ ∃ path, subgraph.pathClause = .ok path := by
    simp only [exists_eq_ok_iff, ne_eq, Subgraph.text_eq_error_iff]
  refine ⟨?_, ?_, fun e => ?_⟩
  · simp only [apply_callOn_eq_ok_iff h, hok]
    constructor
    · rintro ⟨r, path, t, hpath, ht, -⟩
      exact ⟨⟨path, hpath⟩, t, ht⟩
    · rintro ⟨⟨path, hpath⟩, t, ht⟩
      exact ⟨_, path, t, hpath, ht, rfl⟩
  · intro r s t hr hs ht
    obtain ⟨path, t', hpath, ht', rfl⟩ := (apply_callOn_eq_ok_iff h).mp hr
    obtain ⟨path', hpath', rfl⟩ := Subgraph.text_eq_ok_iff.mp hs
    obtain rfl : path = path' := Except.ok.inj (hpath.symm.trans hpath')
    obtain rfl : t' = t := Except.ok.inj (ht'.symm.trans ht)
    exact text_extend_callFragments q _ path procedure t'
  · rw [apply_callOn_eq_error_iff h, Subgraph.text_eq_error_iff, hok, exists_and_right]

/-- The path has blanks at both its ends, and the raw text in the arguments becomes a value. -/
theorem subgraph_call_agrees_blanks :
    ∃ q r, applyAll {} [.raw "USE memgraph \n"] = .ok q ∧ q.settings.dialect = .memgraph ∧
      q.apply (.callOn (.path "\t(n)-->() ") "export.json" (.raw "/home")) = .ok r ∧
      r.text = collapseBlanks (q.rawText ++ " " ++ "MATCH p=\t(n)-->()  WITH project(p) AS graph" ++
        " CALL " ++ "export.json" ++ "(" ++ "graph, '/home'" ++ ")") ∧
      r.text = "USE memgraph MATCH p=\t(n)-->() WITH project(p) AS graph " ++
        "CALL export.json(graph, '/home')" ∧
      q.apply (.callOn (.hops [] [] []) "f" (.positional [.float (0 / 0)])) =
        .error (.typeListCount 0 0) := by
  have hdialect :
      ({ fragments := [.raw "USE memgraph \n"] } : Query).settings.dialect = .memgraph := rfl
  obtain ⟨-, htext, -⟩ := subgraph_call_agrees hdialect (.path "\t(n)-->() ") "export.json"
    (.raw "/home")
  obtain ⟨-, -, herror⟩ := subgraph_call_agrees hdialect (.hops [] [] []) "f"
    (.positional [.float (0 / 0)])
  exact ⟨_, _, rfl, hdialect, rfl, htext _ _ _ rfl rfl rfl, by decide +kernel,
    (herror _).mpr (.inl rfl)⟩

end Query
end OpenCypher
