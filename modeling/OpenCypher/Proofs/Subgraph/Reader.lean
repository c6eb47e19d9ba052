import OpenCypher.Proofs.Subgraph.Places
import OpenCypher.Proofs.Text.Reading

/-! # Reading the clause of hops

A reader for the clause of a subgraph of hops finds the types and the direction of every hop in
front of its node, and the labels of a node in the test on its name; a node without a test has none.
So nothing about the subgraph is lost in its clause (`hops_clause_lossless`). -/

namespace OpenCypher.Subgraph

open Text

/-! ### The readers -/

/-- A relationship of a path, and the node behind it. -/
structure Hop where
  types : List String
  direction : Direction
  node : Char

/-- Reads alternatives, each behind the same text, as long as the separator follows. -/
def readAlternatives (separator front : String) : Nat → List Char → Option (List String × List Char)
  | 0, _ => none
  | fuel + 1, s =>
    (after? front s).bind fun s =>
      match after? separator (readWord s).2 with
      | some rest =>
        (readAlternatives separator front fuel rest).map fun p => ((readWord s).1 :: p.1, p.2)
      | none => some ([(readWord s).1], (readWord s).2)

/-- Reads alternatives up to a closing text. -/
def readClosed (separator front close : String) (s : List Char) :
    Option (List String × List Char) :=
  (readAlternatives separator front s.length s).bind fun p =>
    (after? close p.2).map fun s => (p.1, s)

/-- Reads the types of a relationship, if there are brackets. -/
def readTypes (s : List Char) : Option (List String × List Char) :=
  match after? "[" s with
  | some s => readClosed " | " ":" "]" s
  | none => some ([], s)

/-- Reads a relationship. -/
def readArrow (s : List Char) : Option ((List String × Direction) × List Char) :=
  match after? "<-" s with
  | some s => (readTypes s).bind fun p => (after? "-" p.2).map fun s => ((p.1, .left), s)
  | none =>
    ((after? "-" s).bind readTypes).bind fun p =>
      match after? "->" p.2 with
      | some s => some ((p.1, .right), s)
      | none => (after? "-" p.2).map fun s => ((p.1, .undirected), s)

/-- Reads a node with nothing but its name. -/
def readNode : List Char → Option (Char × List Char)
  | '(' :: name :: ')' :: s => some (name, s)
  | _ => none

/-- Reads a relationship and the node behind it. -/
def readHop (s : List Char) : Option (Hop × List Char) :=
  (readArrow s).bind fun p => (readNode p.2).map fun q => (⟨p.1.1, p.1.2, q.1⟩, q.2)

/-- Reads hops as long as there are any, at most as many as the fuel allows. -/
def readHops : Nat → List Char → List Hop × List Char
  | 0, s => ([], s)
  | fuel + 1, s =>
    match readHop s with
    | some (hop, rest) => (hop :: (readHops fuel rest).1, (readHops fuel rest).2)
    | none => ([], s)

/-- Reads the test on a node, which stands behind a given text. -/
def readTest (front : String) (name : Char) (s : List Char) : Option (List String × List Char) :=
  (after? (front ++ "(") s).bind (readClosed " or " (String.singleton name ++ ":") ")")

/-- Reads the labels of some nodes up to the end of the clause.  A node without a test has none. -/
def readTests : String → List Char → List Char → Option (List (List String))
  | _, [], s => if s = [] then some [] else none
  | front, name :: names, s =>
    match readTest front name s with
    | some (labels, rest) => (readTests " AND " names rest).map (labels :: ·)
    | none => (readTests front names s).map ([] :: ·)

/-- Reads the clause of some hops. -/
def read? (s : List Char) : Option Subgraph :=
  ((after? "p=" s).bind readNode).bind fun first =>
    let path := readHops first.2.length first.2
    (readTests " WHERE " (first.1 :: path.1.map Hop.node) path.2).map fun labels =>
      hops labels (path.1.map Hop.types) (path.1.map Hop.direction)

/-! ### Alternatives -/

/-- All alternatives are identifiers. -/
def Named (names : List (List String)) : Prop :=
  ∀ alternatives ∈ names, ∀ name ∈ alternatives, IsIdentifier name

section alternatives
variable {separator front : String} {c : Char} (hsep : separator.toList.head? = some c)
  (hc : isWordChar c = false) {rest : List Char}
include hsep hc

theorem readAlternatives_append {name : String} {names : List String}
    (h : ∀ n ∈ name :: names, IsIdentifier n) (hrest : ∀ d ∈ rest.head?, isWordChar d = false)
    (hend : after? separator rest = none) {fuel : Nat} (hf : (name :: names).length ≤ fuel) :
    readAlternatives separator front fuel
      ((alternatives separator front (name :: names)).toList ++ rest) =
        some (name :: names, rest) := by
  induction names generalizing name fuel with
  | nil =>
      obtain ⟨fuel, rfl⟩ := Nat.exists_eq_add_of_lt hf
      have hword := readWord_append (h name (by simp)).2 hrest
      have e : (alternatives separator front [name]).toList ++ rest =
          front.toList ++ (name.toList ++ rest) := by
        simp [alternatives]
      rw [e, readAlternatives, after?_append, Option.bind_some, hword]
      dsimp only
      rw [hend]
  | cons next names ih =>
      obtain ⟨hname, hnames⟩ := List.forall_mem_cons.mp h
      obtain ⟨fuel, rfl⟩ := Nat.exists_eq_add_of_lt hf
      have hmore := ih hnames (Nat.le_add_right _ fuel)
      generalize ht : (alternatives separator front (next :: names)).toList ++ rest = t at hmore
      have hstop : ∀ d ∈ (separator.toList ++ t).head?, isWordChar d = false := by
        obtain ⟨r, hr⟩ := List.head?_eq_some_iff.mp hsep
        rw [hr]
        exact forall_mem_head?_cons hc _
      have hword := readWord_append hname.2 hstop
      have e : (alternatives separator front (name :: next :: names)).toList ++ rest =
          front.toList ++ (name.toList ++ (separator.toList ++ t)) := by
        rw [← ht]
        simp [alternatives, List.append_assoc]
      rw [e, readAlternatives, after?_append, Option.bind_some, hword]
      dsimp only
      rw [after?_append]
      dsimp only
      rw [hmore]
      rfl

theorem readClosed_append (hfront : front ≠ "") {close : String} {d : Char}
    (hclose : close.toList.head? = some d) (hd : isWordChar d = false) (hne : d ≠ c)
    {name : String} {names : List String} (h : ∀ n ∈ name :: names, IsIdentifier n) :
    readClosed separator front close
      ((alternatives separator front (name :: names)).toList ++ (close.toList ++ rest)) =
        some (name :: names, rest) := by
  have hstop : ∀ d ∈ (close.toList ++ rest).head?, isWordChar d = false := by
    obtain ⟨r, hr⟩ := List.head?_eq_some_iff.mp hclose
    rw [hr]
    exact forall_mem_head?_cons hd _
  have hlen : ((name :: names).map fun n => front ++ n).length ≤
      (alternatives separator front (name :: names)).length :=
    length_le_length_intercalate (by simp [hfront])
  rw [List.length_map] at hlen
  rw [readClosed,
    readAlternatives_append hsep hc h hstop (after?_append_of_ne hsep hclose hne rest),
    Option.bind_some, after?_append]
  · rfl
  · rw [List.length_append, String.length_toList]
    omega

end alternatives

/-! ### Relationships -/

/-- The types of a relationship between their brackets. -/
def typesText (types : List String) : String :=
  if types.isEmpty then "" else "[" ++ alternatives " | " ":" types ++ "]"

theorem hopText_eq (types : List String) (direction : Direction) :
    hopText types direction = direction.opening ++ typesText types ++ direction.closing := rfl

theorem readTypes_append {types : List String} (h : ∀ t ∈ types, IsIdentifier t)
    {rest : List Char} (hrest : rest.head? ≠ some '[') :
    readTypes ((typesText types).toList ++ rest) = some (types, rest) := by
  cases types with
  | nil =>
      show readTypes rest = _
      rw [readTypes, after?_of_head?_ne (c := '[') rfl hrest]
  | cons t types =>
      have e : (typesText (t :: types)).toList ++ rest = "[".toList ++
          ((alternatives " | " ":" (t :: types)).toList ++ ("]".toList ++ rest)) := by
        simp [typesText]
      rw [e, readTypes, after?_append]
      exact readClosed_append rfl (by decide) (by decide) rfl (by decide) (by decide) h

theorem readArrow_append {types : List String} (h : ∀ t ∈ types, IsIdentifier t)
    (direction : Direction) {rest : List Char} (hrest : rest.head? ≠ some '>') :
    readArrow ((hopText types direction).toList ++ rest) = some ((types, direction), rest) := by
  rw [hopText_eq]
  cases direction with
  | left =>
      have e : ("<-" ++ typesText types ++ "-").toList ++ rest =
          "<-".toList ++ ((typesText types).toList ++ ("-".toList ++ rest)) := by simp
      show readArrow (("<-" ++ typesText types ++ "-").toList ++ rest) = _
      rw [e, readArrow, after?_append]
      dsimp only
      rw [readTypes_append h (by simp), Option.bind_some, after?_append]
      rfl
  | right =>
      have e : ("-" ++ typesText types ++ "->").toList ++ rest =
          "-".toList ++ ((typesText types).toList ++ ("->".toList ++ rest)) := by simp
      show readArrow (("-" ++ typesText types ++ "->").toList ++ rest) = _
      rw [e, readArrow, after?_append_of_ne rfl rfl (by decide), after?_append]
      dsimp only
      rw [Option.bind_some, readTypes_append h (by simp), Option.bind_some, after?_append]
  | undirected =>
      have e : ("-" ++ typesText types ++ "-").toList ++ rest =
          "-".toList ++ ((typesText types).toList ++ ("-".toList ++ rest)) := by simp
      have hright : after? "->" ("-".toList ++ rest) = none := by
        rw [after?, if_neg]
        cases rest with
        | nil => decide
        | cons c rest =>
            have hc : '>' ≠ c := fun e => hrest (congrArg some e.symm)
            simp [hc]
      show readArrow (("-" ++ typesText types ++ "-").toList ++ rest) = _
      rw [e, readArrow, after?_append_of_ne rfl rfl (by decide), after?_append]
      dsimp only
      rw [Option.bind_some, readTypes_append h (by simp), Option.bind_some, hright, after?_append]
      rfl

/-! ### Hops -/

/-- A relationship as it is written, with the node behind it. -/
def Hop.text (hop : Hop) : String := hopText hop.types hop.direction ++ nodeText hop.node

/-- The hops of a path. -/
def hopsAlong : List (List String) → List Direction → List Char → List Hop
  | types :: moreTypes, direction :: moreDirections, name :: moreNames =>
    ⟨types, direction, name⟩ :: hopsAlong moreTypes moreDirections moreNames
  | _, _, _ => []

theorem hopTexts_eq (types : List (List String)) (directions : List Direction)
    (names : List Char) :
    hopTexts types directions names = (hopsAlong types directions names).map Hop.text := by
  induction types generalizing directions names with
  | nil => rfl
  | cons hop types ih =>
      cases directions with
      | nil => rfl
      | cons direction directions =>
          cases names with
          | nil => rfl
          | cons name names => exact congrArg (_ :: ·) (ih directions names)

theorem parts_hopsAlong {types : List (List String)} {directions : List Direction}
    {names : List Char} (hd : directions.length = types.length) (hn : names.length = types.length) :
    (hopsAlong types directions names).map Hop.types = types ∧
      (hopsAlong types directions names).map Hop.direction = directions ∧
        (hopsAlong types directions names).map Hop.node = names := by
  induction types generalizing directions names with
  | nil =>
      obtain rfl := List.length_eq_zero_iff.mp hd
      obtain rfl := List.length_eq_zero_iff.mp hn
      exact ⟨rfl, rfl, rfl⟩
  | cons hop types ih =>
      obtain ⟨direction, directions, rfl⟩ := List.exists_cons_of_length_eq_add_one hd
      obtain ⟨name, names, rfl⟩ := List.exists_cons_of_length_eq_add_one hn
      rw [List.length_cons, List.length_cons, Nat.add_right_cancel_iff] at hd hn
      obtain ⟨ht, hd, hn⟩ := ih hd hn
      exact ⟨congrArg (_ :: ·) ht, congrArg (_ :: ·) hd, congrArg (_ :: ·) hn⟩

theorem readHop_append {hop : Hop} (h : ∀ t ∈ hop.types, IsIdentifier t) (rest : List Char) :
    readHop (hop.text.toList ++ rest) = some (hop, rest) := by
  have e : hop.text.toList ++ rest = (hopText hop.types hop.direction).toList ++
      ('(' :: hop.node :: ')' :: rest) := by
    simp [Hop.text, nodeText]
  rw [e, readHop, readArrow_append h hop.direction (by simp)]
  rfl

/-- No hop starts with a space, and none at the end of the text. -/
theorem readHop_of_stop {s : List Char} (h : ∀ c ∈ s.head?, c = ' ') : readHop s = none := by
  have hne : ∀ c : Char, c ≠ ' ' → s.head? ≠ some c := fun c hc hs => hc (h c hs)
  rw [readHop, readArrow, after?_of_head?_ne (c := '<') rfl (hne '<' (by decide)),
    after?_of_head?_ne (c := '-') rfl (hne '-' (by decide))]
  rfl

theorem readHops_append {path : List Hop} (h : Named (path.map Hop.types)) {rest : List Char}
    (hrest : ∀ c ∈ rest.head?, c = ' ') {fuel : Nat} (hf : path.length ≤ fuel) :
    readHops fuel ((String.join (path.map Hop.text)).toList ++ rest) = (path, rest) := by
  induction path generalizing fuel with
  | nil =>
      cases fuel with
      | zero => rfl
      | succ fuel =>
          show readHops (fuel + 1) rest = _
          rw [readHops, readHop_of_stop hrest]
  | cons hop path ih =>
      obtain ⟨hhop, hpath⟩ := List.forall_mem_cons.mp h
      obtain ⟨fuel, rfl⟩ := Nat.exists_eq_add_of_lt hf
      have hmore := ih hpath (Nat.le_add_right _ fuel)
      have e : (String.join ((hop :: path).map Hop.text)).toList ++ rest =
          hop.text.toList ++ ((String.join (path.map Hop.text)).toList ++ rest) := by simp
      rw [e, readHops, readHop_append hhop]
      dsimp only
      rw [hmore]

/-! ### Tests -/

/-- Some tests, with a text in front of the first one. -/
def joinedTests (front : String) : List String → String
  | [] => ""
  | test :: tests => front ++ " AND ".intercalate (test :: tests)

theorem joinedTests_cons (front test : String) (tests : List String) :
    joinedTests front (test :: tests) = front ++ test ++ joinedTests " AND " tests := by
  cases tests with
  | nil => simp [joinedTests]
  | cons next tests =>
      rw [joinedTests, joinedTests, String.intercalate_cons_cons, String.append_assoc,
        String.append_assoc]

theorem clauseOver_eq (labels types : List (List String)) (directions : List Direction)
    (names : List Char) :
    clauseOver labels types directions names =
      pathText types directions names ++ joinedTests " WHERE " (labelTests labels names) := by
  unfold clauseOver
  dsimp only
  cases labelTests labels names with
  | nil => simp [joinedTests]
  | cons test tests => simp [joinedTests, String.append_assoc]

theorem labelTests_cons {labels : List String} (hne : labels ≠ []) (more : List (List String))
    (name : Char) (names : List Char) :
    labelTests (labels :: more) (name :: names) =
      labelTest name labels :: labelTests more names := by
  simp [labelTests, hne]

/-- The first test is on a node of the path. -/
theorem labelTests_cases (labels : List (List String)) (names : List Char) :
    labelTests labels names = [] ∨ ∃ name ∈ names, ∃ label rest tests,
      labelTests labels names = labelTest name (label :: rest) :: tests := by
  unfold labelTests
  cases h : (labels.zip names).filter fun p => !p.1.isEmpty with
  | nil => exact .inl rfl
  | cons p tests =>
      obtain ⟨hzip, hp⟩ := List.mem_filter.mp (h ▸ List.mem_cons_self)
      obtain ⟨labels, name⟩ := p
      cases labels with
      | nil => cases hp
      | cons label rest =>
          exact .inr ⟨name, (List.of_mem_zip hzip).2, label, rest, _, rfl⟩

section test
variable (front : String) (name : Char)

theorem toList_labelTest (labels : List String) (rest : List Char) :
    (front ++ labelTest name labels).toList ++ rest = (front ++ "(").toList ++
      ((alternatives " or " (String.singleton name ++ ":") labels).toList ++
        (")".toList ++ rest)) := by
  simp [labelTest]

theorem readTest_append {label : String} {labels : List String}
    (h : ∀ l ∈ label :: labels, IsIdentifier l) (rest : List Char) :
    readTest front name ((front ++ labelTest name (label :: labels)).toList ++ rest) =
      some (label :: labels, rest) := by
  rw [toList_labelTest, readTest, after?_append, Option.bind_some]
  exact readClosed_append rfl (by decide) (by simp) rfl (by decide) (by decide) h

theorem readClosed_of_none {separator front : String} {s : List Char} (h : after? front s = none)
    (close : String) : readClosed separator front close s = none := by
  have hnone : ∀ fuel, readAlternatives separator front fuel s = none := by
    intro fuel
    cases fuel with
    | zero => rfl
    | succ fuel => rw [readAlternatives, h, Option.bind_none]
  rw [readClosed, hnone, Option.bind_none]

/-- A test on another node is left alone. -/
theorem readTest_of_ne {other : Char} (hne : other ≠ name) (label : String) (labels : List String)
    (rest : List Char) :
    readTest front name ((front ++ labelTest other (label :: labels)).toList ++ rest) = none := by
  rw [toList_labelTest, readTest, after?_append, Option.bind_some]
  generalize ht : (alternatives " or " (String.singleton other ++ ":") (label :: labels)).toList ++
    (")".toList ++ rest) = t
  have hhead : t.head? = some other := by
    rw [← ht]
    unfold alternatives
    exact head?_intercalate_append (by simp) _ _
  have hname : (String.singleton name ++ ":").toList.head? = some name := by simp
  refine readClosed_of_none (after?_of_head?_ne hname ?_) ")"
  rw [hhead, Ne, Option.some.injEq]
  exact hne

theorem readTest_nil : readTest front name [] = none := by
  have hnone : after? (front ++ "(") [] = none := by
    rw [after?, if_neg]
    simp
  rw [readTest, hnone]
  rfl

/-- A node that no test is about is passed over. -/
theorem readTest_of_not_mem {names : List Char} (h : name ∉ names) (labels : List (List String)) :
    readTest front name (joinedTests front (labelTests labels names)).toList = none := by
  rcases labelTests_cases labels names with ht | ⟨other, hother, label, rest, tests, ht⟩
  · rw [ht]
    exact readTest_nil front name
  · have hne : other ≠ name := by
      rintro rfl
      exact h hother
    rw [ht, joinedTests_cons, String.toList_append]
    exact readTest_of_ne front name hne label rest _

end test

theorem readTests_joinedTests {labels : List (List String)} {names : List Char}
    (hlen : labels.length = names.length) (hn : names.Nodup) (h : Named labels) (front : String) :
    readTests front names (joinedTests front (labelTests labels names)).toList = some labels := by
  induction names generalizing labels front with
  | nil =>
      obtain rfl := List.length_eq_zero_iff.mp hlen
      rfl
  | cons name names ih =>
      obtain ⟨nodeLabels, labels, rfl⟩ := List.exists_cons_of_length_eq_add_one hlen
      obtain ⟨hnode, hmore⟩ := List.forall_mem_cons.mp h
      obtain ⟨hname, hn⟩ := List.nodup_cons.mp hn
      have hlen' : labels.length = names.length := by simpa using hlen
      cases nodeLabels with
      | nil =>
          show readTests front (name :: names)
            (joinedTests front (labelTests labels names)).toList = some ([] :: labels)
          rw [readTests, readTest_of_not_mem front name hname]
          dsimp only
          rw [ih hlen' hn hmore front]
          rfl
      | cons label rest =>
          rw [labelTests_cons (by simp), joinedTests_cons, String.toList_append, readTests,
            readTest_append front name hnode]
          dsimp only
          rw [ih hlen' hn hmore " AND "]
          rfl

/-! ### Clauses -/

theorem head?_joinedTests {front : String} (h : front.toList.head? = some ' ')
    (tests : List String) : ∀ c ∈ (joinedTests front tests).toList.head?, c = ' ' := by
  cases tests with
  | nil => simp [joinedTests]
  | cons test tests =>
      obtain ⟨r, hr⟩ := List.head?_eq_some_iff.mp h
      rw [joinedTests_cons, String.toList_append, String.toList_append, hr]
      exact forall_mem_head?_cons (p := fun c => c = ' ') rfl _

theorem length_le_texts (path : List Hop) (s : List Char) :
    path.length ≤ ((String.join (path.map Hop.text)).toList ++ s).length := by
  have h : (path.map Hop.text).length ≤ (String.join (path.map Hop.text)).length :=
    length_le_length_join (by simp [Hop.text, nodeText])
  rw [List.length_map] at h
  rw [List.length_append, String.length_toList]
  omega

theorem read?_append {labels : List (List String)} {first : Char} {path : List Hop}
    (hlen : labels.length = path.length + 1) (hn : (first :: path.map Hop.node).Nodup)
    (hlabels : Named labels) (htypes : Named (path.map Hop.types)) :
    read? ("p=".toList ++ ('(' :: first :: ')' :: ((String.join (path.map Hop.text)).toList ++
      (joinedTests " WHERE " (labelTests labels (first :: path.map Hop.node))).toList))) =
        some (hops labels (path.map Hop.types) (path.map Hop.direction)) := by
  have hstop : ∀ c ∈ (joinedTests " WHERE "
      (labelTests labels (first :: path.map Hop.node))).toList.head?, c = ' ' :=
    head?_joinedTests rfl _
  rw [read?, after?_append, Option.bind_some, readNode, Option.bind_some]
  dsimp only
  rw [readHops_append htypes hstop (length_le_texts path _)]
  dsimp only
  rw [readTests_joinedTests (by simpa using hlen) hn hlabels]
  rfl

/-- **The clause of some hops is read as those hops.** -/
theorem read?_pathClause {labels types : List (List String)} {directions : List Direction}
    {clause : String} (h : (hops labels types directions).pathClause = .ok clause)
    (hlabels : Named labels) (htypes : Named types) :
    read? clause.toList = some (hops labels types directions) := by
  obtain ⟨hl, hd, hmax, rfl⟩ := pathClause_hops_eq_ok_iff.mp h
  have hn := nodup_take_nodeVariables labels.length
  generalize hnames : nodeVariables.take labels.length = names at hn
  have hlen : names.length = types.length + 1 := by
    rw [← hnames, List.length_take]
    omega
  obtain ⟨first, names, rfl⟩ := List.exists_cons_of_length_eq_add_one hlen
  rw [List.length_cons, Nat.add_right_cancel_iff] at hlen
  obtain ⟨htypes', hdirections', hnames'⟩ := parts_hopsAlong hd hlen
  have e : (clauseOver labels types directions (first :: names)).toList = "p=".toList ++
      ('(' :: first :: ')' ::
        ((String.join ((hopsAlong types directions names).map Hop.text)).toList ++
          (joinedTests " WHERE " (labelTests labels (first :: names))).toList)) := by
    rw [clauseOver_eq]
    simp [pathText, pathVariable, nodeText, hopTexts_eq]
  generalize hopsAlong types directions names = path at htypes' hdirections' hnames' e
  subst htypes' hdirections' hnames'
  rw [e]
  exact read?_append (by simpa using hl) hn hlabels htypes

/-- **Hops have a clause just if they fit each other, and it says all about them.**  Where the
numbers of labels, types and directions fit and there are names enough, no name is missing at the
place where it is looked up; otherwise the subgraph is refused as such.  If the labels and types are
identifiers, then the labels of each node are read off the test on its own name, and the types and
the direction of each relationship off its own hop. -/
theorem hops_clause_lossless :
    (∀ labels types directions,
      ((∃ clause, (hops labels types directions).pathClause = .ok clause) ↔
        labels.length = types.length + 1 ∧ directions.length = types.length ∧
          labels.length ≤ 26) ∧
      (∀ e, (hops labels types directions).pathClause = .error e →
        e.category = .invalidSubgraph) ∧
      (∀ clause, (hops labels types directions).pathClause = .ok clause →
        clauseByPlace labels types directions = some clause) ∧
      ∀ clause, (hops labels types directions).pathClause = .ok clause →
        Named labels → Named types →
          read? clause.toList = some (hops labels types directions)) ∧
    ∀ labels types directions labels' types' directions' clause clause',
      (hops labels types directions).pathClause = .ok clause →
      (hops labels' types' directions').pathClause = .ok clause' →
      Named labels → Named types → Named labels' → Named types' →
        (clause = clause' ↔ labels = labels' ∧ types = types' ∧ directions = directions') := by
  refine ⟨fun labels types directions => ⟨exists_pathClause_iff, fun e => category_of_pathClause,
    fun clause => clauseByPlace_of_pathClause, fun clause => read?_pathClause⟩, ?_⟩
  intro labels types directions labels' types' directions' clause clause' h h' hl ht hl' ht'
  constructor
  · rintro rfl
    have hread := read?_pathClause h hl ht
    rw [read?_pathClause h' hl' ht', Option.some.injEq, hops.injEq] at hread
    obtain ⟨rfl, rfl, rfl⟩ := hread
    exact ⟨rfl, rfl, rfl⟩
  · rintro ⟨rfl, rfl, rfl⟩
    rw [h] at h'
    exact Except.ok.inj h'

/-- Moving a label from one node to the next moves its test to the other name. -/
theorem hops_clause_lossless_labels :
    (hops [["A", "B"], []] [["T"]] [.left]).pathClause = .ok "p=(a)<-[:T]-(b) WHERE (a:A or a:B)" ∧
    (hops [[], ["A", "B"]] [["T"]] [.left]).pathClause = .ok "p=(a)<-[:T]-(b) WHERE (b:A or b:B)" ∧
    clauseByPlace [["A", "B"], []] [["T"]] [.left] = some "p=(a)<-[:T]-(b) WHERE (a:A or a:B)" ∧
    "p=(a)<-[:T]-(b) WHERE (a:A or a:B)" ≠ "p=(a)<-[:T]-(b) WHERE (b:A or b:B)" := by
  have h : (hops [["A", "B"], []] [["T"]] [.left]).pathClause =
      .ok "p=(a)<-[:T]-(b) WHERE (a:A or a:B)" := pathClause_hops_eq_ok_iff.mpr (by decide +kernel)
  have h' : (hops [[], ["A", "B"]] [["T"]] [.left]).pathClause =
      .ok "p=(a)<-[:T]-(b) WHERE (b:A or b:B)" := pathClause_hops_eq_ok_iff.mpr (by decide +kernel)
  have hl : Named [["A", "B"], []] := by unfold Named; decide
  have hl' : Named [[], ["A", "B"]] := by unfold Named; decide
  have ht : Named [["T"]] := by unfold Named; decide
  refine ⟨h, h', (hops_clause_lossless.1 _ _ _).2.2.1 _ h, fun e => ?_⟩
  have hlabels := ((hops_clause_lossless.2 _ _ _ _ _ _ _ _ h h' hl ht hl' ht).mp e).1
  exact absurd hlabels (by decide)

end OpenCypher.Subgraph
