import OpenCypher.Proofs.Literal.Reader
import OpenCypher.Proofs.Query.Addition

/-! # Reading patterns

Readers for nodes and relationships as they are written.  Parts that a pattern does not have are not
written, so a reader tells the parts that are there from their first characters: a word is the name,
a colon starts a label or the type, and a brace the properties.  What a step writes of a pattern
with identifiers for its names and readable properties is read as the parts of that pattern
(`patterns_read_back`). -/

namespace OpenCypher

open Text

/-! ### The readers -/

namespace Pattern

/-- Reads a name, if one stands there. -/
def readName (s : List Char) : Option String × List Char :=
  let (word, rest) := readWord s
  (if word = "" then none else some word, rest)

/-- Reads a word behind a colon. -/
def readMark (s : List Char) : Option (String × List Char) := (after? ":" s).map readWord

/-- Reads words with colons in front of them, at most as many as the fuel allows. -/
def readMarks : Nat → List Char → List String × List Char
  | 0, s => ([], s)
  | fuel + 1, s =>
    match readMark s with
    | some (word, rest) =>
      let (words, rest) := readMarks fuel rest
      (word :: words, rest)
    | none => ([], s)

/-- What follows a space, if there is one. -/
def skipSpace : List Char → List Char
  | ' ' :: s => s
  | s => s

/-- Reads the properties, which have a brace in front of them. -/
def readProperties (s : List Char) : Option (Properties × List Char) :=
  if s.head? = some '\x7b' then
    match Value.read s with
    | some (.map entries, rest) => some (entries, rest)
    | _ => none
  else some ([], s)

end Pattern

/-- What is written of a node. -/
structure NodeParts where
  name : Option String
  labels : List String
  properties : Properties

namespace NodeParts

/-- Reads a node between its parentheses. -/
def read? (s : List Char) : Option (NodeParts × List Char) :=
  (after? "(" s).bind fun s =>
    let (name, s) := Pattern.readName s
    let (labels, s) := Pattern.readMarks s.length s
    (Pattern.readProperties (Pattern.skipSpace s)).bind fun p =>
      (after? ")" p.2).map fun rest => (⟨name, labels, p.1⟩, rest)

end NodeParts

/-- What is written of a relationship without a traversal. -/
structure RelationshipParts where
  name : Option String
  type : Option String
  properties : Properties
  direction : Direction

namespace RelationshipParts

/-- Reads the start of a relationship, which says whether it points to the left. -/
def readOpening (s : List Char) : Option (Bool × List Char) :=
  match after? "<-[" s with
  | some s => some (true, s)
  | none => (after? "-[" s).map fun s => (false, s)

/-- Reads the end of a relationship and with it the direction. -/
def readClosing (left : Bool) (s : List Char) : Option (Direction × List Char) :=
  if left then (after? "]-" s).map fun s => (.left, s)
  else
    match after? "]->" s with
    | some s => some (.right, s)
    | none => (after? "]-" s).map fun s => (.undirected, s)

/-- Reads a relationship between its brackets, and the arrow around them. -/
def read? (s : List Char) : Option (RelationshipParts × List Char) :=
  (readOpening s).bind fun opening =>
    let (name, s) := Pattern.readName opening.2
    let (types, s) := Pattern.readMarks 1 s
    (Pattern.readProperties (Pattern.skipSpace s)).bind fun p =>
      (readClosing opening.1 p.2).map fun d => (⟨name, types.head?, p.1, d.1⟩, d.2)

end RelationshipParts

/-! ### Names, labels and types -/

namespace Pattern

/-- The characters that can stand behind the name and the labels or the type. -/
def stops : List Char := [' ', '\x7b', ')', ']']

theorem stops_isWordChar : ∀ c ∈ stops, isWordChar c = false := by
  simpa using (by decide : stops.all (fun c => !isWordChar c) = true)

theorem stops_ne_colon : ∀ c ∈ stops, c ≠ ':' := by simp [stops]

theorem readName_append {name : Option String} (h : ∀ n ∈ name, IsIdentifier n) {rest : List Char}
    (hrest : ∀ c ∈ rest.head?, isWordChar c = false) :
    readName ((name.getD "").toList ++ rest) = (name, rest) := by
  cases name with
  | none =>
      have hempty : readWord ("".toList ++ rest) = ("", rest) := readWord_append (by simp) hrest
      rw [readName, Option.getD_none, hempty]
      rfl
  | some n =>
      have hn := h n rfl
      rw [readName, Option.getD_some, readWord_append hn.2 hrest]
      dsimp only
      rw [if_neg hn.ne_empty]

/-- The text of some words with colons in front of them. -/
def marks (words : List String) : String := String.join (words.map fun word => ":" ++ word)

theorem marks_cons (word : String) (words : List String) :
    marks (word :: words) = ":" ++ word ++ marks words := by
  simp [marks]

theorem length_le_marks (words : List String) : words.length ≤ (marks words).length := by
  have h : (words.map fun word => ":" ++ word).length ≤ (marks words).length :=
    length_le_length_join (by simp)
  rwa [List.length_map] at h

/-- A word ends where the next colon stands. -/
theorem marks_append_stop {words : List String} {rest : List Char}
    (hrest : ∀ c ∈ rest.head?, isWordChar c = false) :
    ∀ c ∈ ((marks words).toList ++ rest).head?, isWordChar c = false := by
  cases words with
  | nil => simpa [marks] using hrest
  | cons word words =>
      rw [marks_cons]
      simp only [String.toList_append, List.append_assoc]
      exact forall_mem_head?_cons (by decide) _

theorem readMarks_append {words : List String}
    (h : ∀ word ∈ words, ∀ c ∈ word.toList, isWordChar c = true) {rest : List Char}
    (hrest : Stops stops rest) {fuel : Nat} (hf : words.length ≤ fuel) :
    readMarks fuel ((marks words).toList ++ rest) = (words, rest) := by
  induction words generalizing fuel with
  | nil =>
      have hnone : readMark rest = none := by
        rw [readMark, after?_of_head?_ne (c := ':') rfl, Option.map_none]
        intro hc
        exact stops_ne_colon ':' (hrest ':' hc) rfl
      cases fuel with
      | zero => rfl
      | succ fuel =>
          show readMarks (fuel + 1) rest = _
          rw [readMarks, hnone]
  | cons word words ih =>
      obtain ⟨hword, hwords⟩ := List.forall_mem_cons.mp h
      obtain ⟨fuel, rfl⟩ := Nat.exists_eq_add_of_lt hf
      have e : (marks (word :: words)).toList ++ rest =
          ":".toList ++ (word.toList ++ ((marks words).toList ++ rest)) := by
        simp [marks_cons]
      have hmark : readMark (":".toList ++ (word.toList ++ ((marks words).toList ++ rest))) =
          some (word, (marks words).toList ++ rest) := by
        rw [readMark, after?_append, Option.map_some,
          readWord_append hword (marks_append_stop (hrest.imp stops_isWordChar))]
      rw [e, readMarks, hmark]
      dsimp only
      rw [ih hwords (by omega)]

/-! ### Properties -/

/-- The properties can be read back: as a map they can be. -/
def Readable (properties : Properties) : Prop := (Value.map properties).Readable

/-- The characters that end a pattern. -/
def closers : List Char := [')', ']']

theorem closers_stop : ∀ c ∈ closers, c ∈ stops := by simp [closers, stops]

theorem closers_stop_value : ∀ c ∈ closers, c ∈ Value.stops := by simp [closers, Value.stops]

theorem closers_ne_space : ∀ c ∈ closers, c ≠ ' ' := by simp [closers]

/-- `t` shows some properties: there are none and it is empty, or it is read as the map of them. -/
inductive Shows (properties : Properties) : String → Prop
  | nothing (h : properties = []) : Shows properties ""
  | map {t : String} (hbrace : t.toList.head? = some '\x7b')
      (hread : ∀ rest, Stops Value.stops rest →
        Value.read (t.toList ++ rest) = some (.map properties, rest)) : Shows properties t

theorem exists_literal (style : LiteralStyle) {properties : Properties} (h : Readable properties) :
    ∃ t, properties.literal style = .ok t ∧ Shows properties t := by
  cases properties with
  | nil => exact ⟨"", rfl, .nothing rfl⟩
  | cons entry rest =>
      obtain ⟨t, ht⟩ : ∃ t, (Value.map (entry :: rest)).Written style t :=
        Value.Readable.exists_written h
      refine ⟨t, ht, .map ?_ fun _ => h.read_written ht⟩
      obtain ⟨ts, -, rfl⟩ := Value.written_map_iff.mp ht
      simp

/-- What stands behind the head of a pattern: the properties, behind a space if there is a head. -/
def tail (head properties : String) : String :=
  if properties = "" then "" else if head = "" then properties else " " ++ properties

theorem joinPresent_eq (head properties : String) :
    Fragment.joinPresent [head, properties] = head ++ tail head properties := by
  unfold Fragment.joinPresent tail
  by_cases hp : properties = "" <;> by_cases hh : head = "" <;>
    simp [hp, hh, String.append_assoc]

theorem joinPresent_empty (head properties : String) :
    Fragment.joinPresent [head, "", properties] = head ++ tail head properties := by
  rw [← joinPresent_eq]
  unfold Fragment.joinPresent
  by_cases hh : head = "" <;> simp [hh]

theorem skipSpace_of_ne {s : List Char} (h : ∀ c ∈ s.head?, c ≠ ' ') : skipSpace s = s := by
  unfold skipSpace
  split
  · exact absurd rfl (h ' ' rfl)
  · rfl

section tail
variable {properties : Properties} {t : String} (h : Shows properties t) (head : String)
  {rest : List Char} (hrest : Stops closers rest)
include h hrest

theorem tail_stops : Stops stops ((tail head t).toList ++ rest) := by
  cases h with
  | nothing => exact hrest.imp closers_stop
  | map hbrace hread =>
      obtain ⟨r, hr⟩ := List.head?_eq_some_iff.mp hbrace
      unfold tail
      split
      · next e => simp [e] at hr
      · split
        · rw [hr]
          exact stops_cons.mpr (by decide)
        · rw [String.toList_append]
          exact stops_cons.mpr (by decide : ' ' ∈ stops)

/-- The properties are read whether or not a head stands in front of them. -/
theorem readProperties_tail :
    readProperties (skipSpace ((tail head t).toList ++ rest)) = some (properties, rest) := by
  cases h with
  | nothing hnil =>
      have hspace : skipSpace rest = rest := skipSpace_of_ne (hrest.imp closers_ne_space)
      have hbrace : rest.head? ≠ some '\x7b' := fun hc =>
        absurd (hrest _ hc) (by simp [closers])
      show readProperties (skipSpace rest) = _
      rw [hspace, readProperties, if_neg hbrace, hnil]
  | map hbrace hread =>
      obtain ⟨r, hr⟩ := List.head?_eq_some_iff.mp hbrace
      have hskip : skipSpace ((tail head t).toList ++ rest) = t.toList ++ rest := by
        unfold tail
        split
        · next e => simp [e] at hr
        · split
          · refine skipSpace_of_ne ?_
            rw [hr]
            exact forall_mem_head?_cons (by decide) _
          · rw [String.toList_append]
            rfl
      have hhead : (t.toList ++ rest).head? = some '\x7b' := by
        rw [hr]
        rfl
      rw [hskip, readProperties, if_pos hhead, hread rest (hrest.imp closers_stop_value)]

end tail

end Pattern

/-! ### Nodes -/

open Pattern

theorem NodeParts.read?_text {name : Option String} (hname : ∀ n ∈ name, IsIdentifier n)
    {labels : List String} (hlabels : ∀ l ∈ labels, ∀ c ∈ l.toList, isWordChar c = true)
    {properties : Properties} {t : String} (h : Shows properties t) (rest : List Char) :
    read? ((Fragment.node name (marks labels) t).text.toList ++ rest) =
      some (⟨name, labels, properties⟩, rest) := by
  have hrest : Stops closers (")".toList ++ rest) := stops_cons.mpr (by decide : ')' ∈ closers)
  have htail := tail_stops h (name.getD "" ++ marks labels) hrest
  have e : (Fragment.node name (marks labels) t).text.toList ++ rest =
      "(".toList ++ ((name.getD "").toList ++ ((marks labels).toList ++
        ((tail (name.getD "" ++ marks labels) t).toList ++ (")".toList ++ rest)))) := by
    simp [Fragment.text, joinPresent_eq]
  have hfuel : labels.length ≤ ((marks labels).toList ++
      ((tail (name.getD "" ++ marks labels) t).toList ++ (")".toList ++ rest))).length := by
    have := length_le_marks labels
    rw [List.length_append, String.length_toList]
    omega
  rw [e, read?, after?_append, Option.bind_some,
    readName_append hname (marks_append_stop (htail.imp stops_isWordChar))]
  dsimp only
  rw [readMarks_append hlabels htail hfuel]
  dsimp only
  rw [readProperties_tail h _ hrest, Option.bind_some, after?_append]
  rfl

/-! ### Relationships -/

namespace RelationshipParts

theorem readOpening_append (direction : Direction) (s : List Char) :
    readOpening (direction.opening.toList ++ ("[".toList ++ s)) =
      some (decide (direction = .left), s) := by
  have hright : readOpening ("-[".toList ++ s) = some (false, s) := by
    rw [readOpening, after?_append_of_ne rfl rfl (by decide), after?_append]
    rfl
  cases direction with
  | left =>
      show readOpening ("<-[".toList ++ s) = _
      rw [readOpening, after?_append]
      rfl
  | right => exact hright
  | undirected => exact hright

theorem after?_arrow {rest : List Char} (h : rest.head? ≠ some '>') :
    after? "]->" ("]-".toList ++ rest) = none := by
  rw [after?, if_neg]
  cases rest with
  | nil => decide
  | cons c rest =>
      have hc : c ≠ '>' := fun e => h (congrArg some e)
      simp [hc.symm]

theorem readClosing_append (direction : Direction) {rest : List Char} (h : rest.head? ≠ some '>') :
    readClosing (decide (direction = .left)) ("]".toList ++ (direction.closing.toList ++ rest)) =
      some (direction, rest) := by
  cases direction with
  | left =>
      show readClosing true ("]-".toList ++ rest) = _
      rw [readClosing, if_pos rfl, after?_append]
      rfl
  | right =>
      show readClosing false ("]->".toList ++ rest) = _
      rw [readClosing, if_neg (by decide), after?_append]
  | undirected =>
      show readClosing false ("]-".toList ++ rest) = _
      rw [readClosing, if_neg (by decide), after?_arrow h, after?_append]
      rfl

theorem typeText_eq {type : Option String} (h : ∀ t ∈ type, IsIdentifier t) :
    Fragment.typeText (type.getD "") = marks type.toList := by
  cases type with
  | none => rfl
  | some t => simp [Fragment.typeText, marks, (h t rfl).ne_empty]

theorem read?_text {name type : Option String} (hname : ∀ n ∈ name, IsIdentifier n)
    (htype : ∀ t ∈ type, IsIdentifier t) {properties : Properties} {t : String}
    (h : Shows properties t) (direction : Direction) {rest : List Char}
    (hrest : rest.head? ≠ some '>') :
    read? ((Fragment.relationship name type none t direction).text.toList ++ rest) =
      some (⟨name, type, properties, direction⟩, rest) := by
  have hclose : Stops closers ("]".toList ++ (direction.closing.toList ++ rest)) :=
    stops_cons.mpr (by decide : ']' ∈ closers)
  have htail := tail_stops h (name.getD "" ++ marks type.toList) hclose
  have e : (Fragment.relationship name type none t direction).text.toList ++ rest =
      direction.opening.toList ++ ("[".toList ++ ((name.getD "").toList ++
        ((marks type.toList).toList ++ ((tail (name.getD "" ++ marks type.toList) t).toList ++
          ("]".toList ++ (direction.closing.toList ++ rest)))))) := by
    simp [Fragment.text, joinPresent_empty, typeText_eq htype]
  have hmarks : ∀ l ∈ type.toList, ∀ c ∈ l.toList, isWordChar c = true := fun l hl =>
    (htype l (Option.mem_toList.mp hl)).2
  have hfuel : type.toList.length ≤ 1 := by cases type <;> simp
  rw [e, read?, readOpening_append, Option.bind_some,
    readName_append hname (marks_append_stop (htail.imp stops_isWordChar))]
  dsimp only
  rw [readMarks_append hmarks htail hfuel]
  dsimp only
  rw [readProperties_tail h _ hclose, Option.bind_some, readClosing_append direction hrest]
  cases type <;> rfl

end RelationshipParts

/-! ### What a step writes -/

/-- The name is an identifier, if there is one, the labels are identifiers or empty, and the
properties can be read back. -/
structure NodePattern.WellFormed (p : NodePattern) : Prop where
  name : ∀ n ∈ p.name, IsIdentifier n
  labels : ∀ l ∈ p.labels.toList, l = "" ∨ IsIdentifier l
  properties : Readable p.properties

/-- The name and the type are identifiers, if they are there, and the properties can be read
back. -/
structure RelationshipPattern.WellFormed (p : RelationshipPattern) : Prop where
  name : ∀ n ∈ p.name, IsIdentifier n
  type : ∀ t ∈ p.type, IsIdentifier t
  properties : Readable p.properties

theorem NodePattern.WellFormed.shown {p : NodePattern} (h : p.WellFormed) :
    ∀ l ∈ p.labels.shown, ∀ c ∈ l.toList, isWordChar c = true := by
  intro l hl
  obtain ⟨hmem, hne⟩ := List.mem_filter.mp hl
  rcases h.labels l hmem with rfl | hl
  · simp at hne
  · exact hl.2

namespace Query

/-- The step adds one fragment, and in front of certain texts the fragment is read as the given
parts. -/
def ReadsBack {α : Type} (read : List Char → Option (α × List Char)) (follows : List Char → Prop)
    (q : Query) (step : Step) (parts : α) : Prop :=
  ∃ r f, q.apply step = .ok r ∧ r.fragments = q.fragments ++ [f] ∧
    ∀ rest, follows rest → read (f.text.toList ++ rest) = some (parts, rest)

theorem readsBack_of_fragment {α : Type} {read : List Char → Option (α × List Char)}
    {follows : List Char → Prop} {q : Query} {step : Step} {parts : α} {f : Fragment}
    (hstep : step.fragments q.settings q.fragments.getLast? = .ok [f])
    (hread : ∀ rest, follows rest → read (f.text.toList ++ rest) = some (parts, rest)) :
    ReadsBack read follows q step parts :=
  ⟨_, f, apply_eq_ok_iff.mpr ⟨[f], hstep, rfl⟩, rfl, hread⟩

theorem exists_relationship {q : Query} {p : RelationshipPattern} (hp : p.WellFormed)
    (htraversal : p.traversal = none) (hlast : q.lastKind ≠ some .relationship)
    (direction : Direction) :
    ∃ f, p.fragment direction q.settings q.fragments.getLast? = .ok f ∧
      ∀ rest : List Char, rest.head? ≠ some '>' →
        RelationshipParts.read? (f.text.toList ++ rest) = some (⟨p.name, p.type, p.properties,
          if p.directed then direction else .undirected⟩, rest) := by
  obtain ⟨t, ht, hshows⟩ := exists_literal q.settings.literals hp.properties
  refine ⟨.relationship p.name p.type none t (if p.directed then direction else .undirected), ?_,
    fun rest => RelationshipParts.read?_text hp.name hp.type hshows _⟩
  refine RelationshipPattern.fragment_eq_ok_iff.mpr ⟨hlast, fun h => ?_, t, ht, ?_⟩
  · rw [htraversal] at h
    cases h
  · rw [htraversal]
    rfl

/-- **What a step writes of a pattern is read as its parts**: of a node the name, the labels that
are not empty and the properties, in their order; of a relationship without a traversal the name,
the type, the properties and where it points.  A node can be read whatever follows it, a
relationship unless its arrow goes on. -/
theorem patterns_read_back (q : Query) :
    (∀ p : NodePattern, p.WellFormed → q.lastKind ≠ some .node →
      ReadsBack NodeParts.read? (fun _ => True) q (.node p)
        ⟨p.name, p.labels.shown, p.properties⟩) ∧
    ∀ p : RelationshipPattern, p.WellFormed → p.traversal = none →
      q.lastKind ≠ some .relationship →
      ReadsBack RelationshipParts.read? (fun rest => rest.head? ≠ some '>') q (.outgoing p)
        ⟨p.name, p.type, p.properties, if p.directed then .right else .undirected⟩ ∧
      ReadsBack RelationshipParts.read? (fun rest => rest.head? ≠ some '>') q (.incoming p)
        ⟨p.name, p.type, p.properties, if p.directed then .left else .undirected⟩ := by
  constructor
  · intro p hp hlast
    obtain ⟨t, ht, hshows⟩ := exists_literal q.settings.literals hp.properties
    have hf := NodePattern.fragment_eq_ok_iff.mpr ⟨hlast, t, ht, rfl⟩
    exact readsBack_of_fragment (bind_eq_ok_iff.mpr ⟨_, hf, rfl⟩) fun rest _ =>
      NodeParts.read?_text hp.name hp.shown hshows rest
  · intro p hp htraversal hlast
    constructor
    · obtain ⟨f, hf, hread⟩ := exists_relationship hp htraversal hlast .right
      exact readsBack_of_fragment (bind_eq_ok_iff.mpr ⟨f, hf, rfl⟩) hread
    · obtain ⟨f, hf, hread⟩ := exists_relationship hp htraversal hlast .left
      exact readsBack_of_fragment (bind_eq_ok_iff.mpr ⟨f, hf, rfl⟩) hread

/-- The delimiters of patterns inside their properties, and parts that are missing. -/
theorem patterns_read_back_delimiters :
    ReadsBack NodeParts.read? (fun _ => True) {}
        (.node ⟨none, .many ["", "A", "B"], [("k", .text "\x7d)-[:T]->("), ("m", .list [.null])]⟩)
        ⟨none, ["A", "B"], [("k", .text "\x7d)-[:T]->("), ("m", .list [.null])]⟩ ∧
      ReadsBack RelationshipParts.read? (fun rest => rest.head? ≠ some '>') {}
        (.incoming { name := some "r", properties := [("k", .map [("n", .int (-5))])] })
        ⟨some "r", none, [("k", .map [("n", .int (-5))])], .left⟩ := by
  have hnode : Readable [("k", .text "\x7d)-[:T]->("), ("m", .list [.null])] := by
    refine .map (by decide) (by decide) fun e he => ?_
    simp only [List.mem_cons, List.not_mem_nil, or_false] at he
    rcases he with rfl | rfl
    · exact .text (by decide)
    · exact .list (by simp [Value.Readable.null])
  have hrelationship : Readable [("k", .map [("n", .int (-5))])] := by
    refine .map (by decide) (by decide) fun e he => ?_
    obtain rfl := List.mem_singleton.mp he
    refine .map (by decide) (by decide) fun e he => ?_
    obtain rfl := List.mem_singleton.mp he
    exact .int _
  have h := patterns_read_back {}
  exact ⟨h.1 _ ⟨by simp, by decide, hnode⟩ (by decide),
    (h.2 _ ⟨by decide, by simp, hrelationship⟩ rfl (by decide)).2⟩

end Query
end OpenCypher
