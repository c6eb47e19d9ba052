import OpenCypher.Proofs.Literal.Parts
import OpenCypher.Proofs.Text.Reading

/-! # Reading literals

A reader for literals that knows nothing of the style they are written in.  It gives back every
value that is made of nulls, truth values, integers, texts, references, lists and maps, and stops
where the literal ends (`read_literal`), as long as no text or reference is one of the reserved
words and the names are identifiers.

The literal of such a value is followed by a comma or a closing bracket, or by nothing (`stops`). -/

namespace OpenCypher.Value

open Text

/-! ### The reader -/

/-- The characters that can follow a literal. -/
def stops : List Char := [',', ']', '\x7d', ')']

/-- Whether a character can stand in a reference. -/
def isNameChar (c : Char) : Bool := isWordChar c || c == '.'

/-- The value that a word stands for. -/
def ofWord (word : String) : Value :=
  if word = "null" then .null
  else if word = "true" ∨ word = "True" then .bool true
  else if word = "false" ∨ word = "False" then .bool false
  else .ref word

/-- Reads a word or a reference. -/
def readName (s : List Char) : Option (Value × List Char) :=
  match s.takeWhile isNameChar with
  | [] => none
  | word => some (ofWord (String.ofList word), s.dropWhile isNameChar)

/-- Reads a natural number. -/
def readNat (s : List Char) : Option (Nat × List Char) :=
  match s.takeWhile Char.isDigit with
  | [] => none
  | digits => some (Decimal.value digits, s.dropWhile Char.isDigit)

/-- The value of an integer of 64 bits. -/
def ofInt? (i : Int) : Option Value :=
  if (Int64.ofInt i).toInt = i then some (.int (Int64.ofInt i)) else none

/-- Reads an integer of 64 bits. -/
def readInt : List Char → Option (Value × List Char)
  | '-' :: s => (readNat s).bind fun p => (ofInt? (-p.1)).map fun v => (v, p.2)
  | s => (readNat s).bind fun p => (ofInt? p.1).map fun v => (v, p.2)

/-- Reads an entry of a map. -/
def readEntry (value : List Char → Option (Value × List Char)) (s : List Char) :
    Option ((String × Value) × List Char) :=
  match readWord s with
  | (key, ':' :: ' ' :: rest) => (value rest).map fun p => ((key, p.1), p.2)
  | _ => none

/-- Reads a value, which may be as deep as the fuel allows. -/
def readValue : Nat → List Char → Option (Value × List Char)
  | 0, _ => none
  | _ + 1, [] => none
  | fuel + 1, c :: s =>
    if c = '\'' then (scan (c :: s)).map fun p => (.text (String.ofList p.1), p.2)
    else if c = '[' then (readSeries (readValue fuel) ']' fuel s).map fun p => (.list p.1, p.2)
    else if c = '\x7b' then
      (readSeries (readEntry (readValue fuel)) '\x7d' fuel s).map fun p =>
        (.map (Entries.ofPairs p.1), p.2)
    else if c = '-' ∨ c.isDigit = true then readInt (c :: s)
    else readName (c :: s)

/-- Reads a value at the start of a text: the value, and what follows it. -/
def read (s : List Char) : Option (Value × List Char) := readValue (s.length + 1) s

/-! ### Words -/

/-- The text consists of identifiers with points between them. -/
def IsDotted (s : String) : Prop :=
  ∃ parts : List String, parts ≠ [] ∧ (∀ part ∈ parts, IsIdentifier part) ∧
    s = ".".intercalate parts

/-- The text can be read as a word. -/
def IsName (s : String) : Prop :=
  (∃ c ∈ s.toList.head?, isWordChar c = true ∧ c.isDigit = false) ∧
    ∀ c ∈ s.toList, isNameChar c = true

theorem isName_of_isIdentifier {s : String} (h : IsIdentifier s) : IsName s := by
  obtain ⟨⟨c, hc, hd⟩, hall⟩ := h
  refine ⟨⟨c, hc, hall c (List.mem_of_head? hc), hd⟩, fun d hd => ?_⟩
  rw [isNameChar, hall d hd]
  rfl

theorem IsDotted.isName {s : String} (h : IsDotted s) : IsName s := by
  obtain ⟨parts, hne, hparts, rfl⟩ := h
  induction parts with
  | nil => exact absurd rfl hne
  | cons part parts ih =>
      have hpart : IsName part := isName_of_isIdentifier (hparts part (by simp))
      cases parts with
      | nil => rwa [String.intercalate_singleton]
      | cons next parts =>
          have hrest : IsName (".".intercalate (next :: parts)) :=
            ih (by simp) fun p hp => hparts p (List.mem_cons_of_mem _ hp)
          obtain ⟨⟨c, hc, hstart⟩, hall⟩ := hpart
          obtain ⟨r, hr⟩ := List.head?_eq_some_iff.mp hc
          rw [String.intercalate_cons_cons]
          refine ⟨⟨c, by simp [hr], hstart⟩, fun d hd => ?_⟩
          simp only [String.toList_append, List.mem_append] at hd
          rcases hd with (hd | hd) | hd
          · exact hall d hd
          · obtain rfl : d = '.' := by simpa using hd
            rfl
          · exact hrest.2 d hd

theorem ofWord_of_isReserved {name : String} (h : isReserved name = false) :
    ofWord name = .ref name := by
  have hne : ∀ word, isReserved word = true → name ≠ word := by
    rintro word hw rfl
    rw [hw] at h
    cases h
  rw [ofWord, if_neg (hne _ (by decide)), if_neg, if_neg]
  · rintro (e | e)
    · exact hne _ (by decide) e
    · exact hne _ (by decide) e
  · rintro (e | e)
    · exact hne _ (by decide) e
    · exact hne _ (by decide) e

/-! ### Values without parts -/

theorem stops_isNameChar : ∀ c ∈ stops, isNameChar c = false := by
  simpa using (by decide : stops.all (fun c => !isNameChar c) = true)

theorem stops_isWordChar : ∀ c ∈ stops, isWordChar c = false := by
  simpa using (by decide : stops.all (fun c => !isWordChar c) = true)

theorem stops_isDigit : ∀ c ∈ stops, c.isDigit = false := by
  simpa using (by decide : stops.all (fun c => !c.isDigit) = true)

variable {fuel : Nat}

/-- A word is read as far as it reaches. -/
theorem reads_name {word : String} (h : IsName word) :
    Reads (readValue (fuel + 1)) stops (ofWord word) word := by
  obtain ⟨⟨c, hc, hword, hdigit⟩, hall⟩ := h
  have hne : ∀ d, isWordChar d = false → c ≠ d := by
    rintro d hd rfl
    rw [hword] at hd
    cases hd
  refine ⟨⟨c, hc, fun hs => hne c (stops_isWordChar c hs) rfl⟩, fun rest hrest => ?_⟩
  have hstop : ∀ d ∈ rest.head?, isNameChar d = false := hrest.imp stops_isNameChar
  have hread : readName (word.toList ++ rest) = some (ofWord word, rest) := by
    rw [readName, takeWhile_append_of_stop hall hstop, dropWhile_append_of_stop hall hstop]
    split
    · next e => simp [e] at hc
    · rw [String.ofList_toList]
  obtain ⟨r, hr⟩ := List.head?_eq_some_iff.mp hc
  rw [← hread, hr, List.cons_append, readValue, if_neg (hne _ (by decide)),
    if_neg (hne _ (by decide)), if_neg (hne _ (by decide)), if_neg]
  rintro (e | e)
  · exact hne _ (by decide) e
  · rw [hdigit] at e
    cases e

theorem readNat_append (n : Nat) {rest : List Char} (hrest : ∀ c ∈ rest.head?, c.isDigit = false) :
    readNat (Decimal.digits n ++ rest) = some (n, rest) := by
  have hall : ∀ c ∈ Decimal.digits n, c.isDigit = true := fun c => Decimal.isDigit_of_mem_digits
  rw [readNat, takeWhile_append_of_stop hall hrest, dropWhile_append_of_stop hall hrest]
  split
  · next e => exact absurd e Nat.toDigits_ne_nil
  · rw [Decimal.value_digits]

theorem readNat_digits (n : Nat) {rest : List Char} (hrest : Stops stops rest) :
    readNat (Decimal.digits n ++ rest) = some (n, rest) :=
  readNat_append n (hrest.imp stops_isDigit)

theorem ofInt?_toInt (n : Int64) : ofInt? n.toInt = some (.int n) := by
  rw [ofInt?, Int64.ofInt_toInt, if_pos rfl]

/-- An integer starts with a minus or a digit. -/
theorem exists_ofInt_eq_cons (i : Int) :
    ∃ c r, Decimal.ofInt i = c :: r ∧ (c = '-' ∨ c.isDigit = true) := by
  cases i with
  | negSucc n => exact ⟨_, _, rfl, .inl rfl⟩
  | ofNat n =>
      obtain ⟨c, r, hr⟩ := List.exists_cons_of_ne_nil (Nat.toDigits_ne_nil (n := n) (b := 10))
      exact ⟨c, r, hr, .inr (Decimal.isDigit_of_mem_digits (n := n) (by simp [Decimal.digits, hr]))⟩

theorem readInt_ofInt (n : Int64) {rest : List Char} (hrest : Stops stops rest) :
    readInt (Decimal.ofInt n.toInt ++ rest) = some (.int n, rest) := by
  have hvalue := ofInt?_toInt n
  cases hi : n.toInt with
  | negSucc k =>
      rw [hi] at hvalue
      have e : -((k + 1 : Nat) : Int) = Int.negSucc k := rfl
      rw [Decimal.ofInt, List.cons_append, readInt, readNat_digits _ hrest, Option.bind_some, e,
        hvalue]
      rfl
  | ofNat k =>
      rw [hi] at hvalue
      obtain ⟨c, r, hr⟩ := List.exists_cons_of_ne_nil (Nat.toDigits_ne_nil (n := k) (b := 10))
      have hc : c ≠ '-' := by
        rintro rfl
        have := Decimal.isDigit_of_mem_digits (n := k) (c := '-') (by simp [Decimal.digits, hr])
        cases this
      have hread := readNat_digits k hrest
      rw [Decimal.ofInt]
      rw [Decimal.digits, hr] at hread ⊢
      rw [List.cons_append] at hread ⊢
      rw [readInt, hread]
      · have e : ((k : Nat) : Int) = Int.ofNat k := rfl
        rw [Option.bind_some, e, hvalue]
        rfl
      · exact fun _ e => hc (List.cons.inj e).1

theorem reads_int (n : Int64) :
    Reads (readValue (fuel + 1)) stops (.int n) (String.ofList (Decimal.ofInt n.toInt)) := by
  obtain ⟨c, r, hr, hc⟩ := exists_ofInt_eq_cons n.toInt
  have hne : ∀ d : Char, d ≠ '-' → d.isDigit = false → c ≠ d := by
    rintro d hd hdigit rfl
    rcases hc with hc | hc
    · exact hd hc
    · rw [hdigit] at hc
      cases hc
  refine ⟨⟨c, by simp [hr], ?_⟩, fun rest hrest => ?_⟩
  · intro hs
    exact hne c (by rintro rfl; revert hs; decide) (stops_isDigit c hs) rfl
  · rw [String.toList_ofList, ← readInt_ofInt n hrest, hr, List.cons_append, readValue,
      if_neg (hne _ (by decide) (by decide)), if_neg (hne _ (by decide) (by decide)),
      if_neg (hne _ (by decide) (by decide)), if_pos hc]

theorem reads_text (s : String) : Reads (readValue (fuel + 1)) stops (.text s) (quote s) := by
  refine ⟨⟨'\'', by simp [quoteChars], by decide⟩, fun rest _ => ?_⟩
  have e : (quote s).toList ++ rest = '\'' :: (escape s.toList ++ ['\''] ++ rest) := by
    simp [quoteChars]
  have hscan : scan ('\'' :: (escape s.toList ++ ['\''] ++ rest)) = some (s.toList, rest) := by
    rw [← e, toList_quote]
    exact scan_quote _ _
  rw [e, readValue, if_pos rfl, hscan]
  simp

/-! ### Lists and maps -/

theorem reads_list {items : List Value} {ts : List String}
    (h : List.Forall₂ (Reads (readValue fuel) stops) items ts) (hf : items.length ≤ fuel) :
    Reads (readValue (fuel + 1)) stops (.list items) ("[" ++ ", ".intercalate ts ++ "]") := by
  refine ⟨⟨'[', by simp, by decide⟩, fun rest _ => ?_⟩
  have e : ("[" ++ ", ".intercalate ts ++ "]").toList ++ rest =
      '[' :: ((", ".intercalate ts).toList ++ ']' :: rest) := by
    simp
  rw [e, readValue, if_neg (by decide), if_pos rfl,
    readSeries_intercalate (by decide) (by decide) (by decide) h hf]
  rfl

theorem reads_entry {one : List Char → Option (Value × List Char)} {key t : String} {v : Value}
    (hkey : IsIdentifier key) (h : Reads one stops v t) :
    Reads (readEntry one) stops (key, v) (key ++ ": " ++ t) := by
  obtain ⟨⟨c, hc, -⟩, hall⟩ := hkey
  obtain ⟨r, hr⟩ := List.head?_eq_some_iff.mp hc
  refine ⟨⟨c, by simp [hr], fun hs => ?_⟩, fun rest hrest => ?_⟩
  · have hword := hall c (List.mem_of_head? hc)
    rw [stops_isWordChar c hs] at hword
    cases hword
  · have e : (key ++ ": " ++ t).toList ++ rest =
        key.toList ++ ':' :: ' ' :: (t.toList ++ rest) := by
      simp
    rw [e, readEntry, readWord_append hall (forall_mem_head?_cons (by decide) _)]
    show (one (t.toList ++ rest)).map _ = _
    rw [h.reads rest hrest]
    rfl

theorem ofPairs_append {m pairs : Entries Value} (h : (Entries.keys (m ++ pairs)).Nodup) :
    pairs.foldl (fun m p => Entries.insert p.1 p.2 m) m = m ++ pairs := by
  induction pairs generalizing m with
  | nil => simp
  | cons e pairs ih =>
      have hnew : e.1 ∉ Entries.keys m := by
        intro hmem
        rw [Entries.keys, List.map_append, List.nodup_append] at h
        exact h.2.2 _ hmem e.1 (by simp) rfl
      rw [List.foldl_cons, Entries.insert_of_not_mem _ hnew, ih (by simpa using h)]
      simp

theorem ofPairs_of_nodup {entries : Entries Value} (h : (Entries.keys entries).Nodup) :
    Entries.ofPairs entries = entries := ofPairs_append h

theorem reads_map {entries : Entries Value} {ts : List String}
    (h : List.Forall₂ (Reads (readEntry (readValue fuel)) stops) entries ts)
    (hf : entries.length ≤ fuel) (hkeys : (Entries.keys entries).Nodup) :
    Reads (readValue (fuel + 1)) stops (.map entries)
      ("\x7b" ++ ", ".intercalate ts ++ "\x7d") := by
  refine ⟨⟨'\x7b', by simp, by decide⟩, fun rest _ => ?_⟩
  have e : ("\x7b" ++ ", ".intercalate ts ++ "\x7d").toList ++ rest =
      '\x7b' :: ((", ".intercalate ts).toList ++ '\x7d' :: rest) := by
    simp
  rw [e, readValue, if_neg (by decide), if_neg (by decide), if_pos rfl,
    readSeries_intercalate (by decide) (by decide) (by decide) h hf, Option.map_some,
    ofPairs_of_nodup hkeys]

/-! ### The round trip -/

/-- The values whose literals can be read back. -/
inductive Readable : Value → Prop
  | null : Readable .null
  | bool (b : Bool) : Readable (.bool b)
  | int (n : Int64) : Readable (.int n)
  | text {s : String} (h : isReserved s = false) : Readable (.text s)
  | ref {name : String} (hname : IsDotted name) (h : isReserved name = false) :
      Readable (.ref name)
  | list {items : List Value} (h : ∀ v ∈ items, Readable v) : Readable (.list items)
  | map {entries : Entries Value} (hkeys : (Entries.keys entries).Nodup)
      (hnames : ∀ e ∈ entries, IsIdentifier e.1) (h : ∀ e ∈ entries, Readable e.2) :
      Readable (.map entries)

variable {style : LiteralStyle}

theorem Readable.exists_written {v : Value} (h : v.Readable) : ∃ t, v.Written style t := by
  induction h with
  | null => exact ⟨_, rfl⟩
  | bool b => exact ⟨_, rfl⟩
  | int n => exact ⟨_, rfl⟩
  | text h => exact ⟨_, written_text h⟩
  | ref hname h => exact ⟨_, rfl⟩
  | list _ ih =>
      obtain ⟨ts, hts⟩ := exists_forall₂ ih
      exact ⟨_, written_list_iff.mpr ⟨ts, hts, rfl⟩⟩
  | map _ _ _ ih =>
      obtain ⟨ts, hts⟩ := exists_forall₂ (R := EntryWritten style) fun e he => by
        obtain ⟨u, hu⟩ := ih e he
        exact ⟨_, u, hu, rfl⟩
      exact ⟨_, written_map_iff.mpr ⟨ts, hts, rfl⟩⟩

theorem reads_bool (b : Bool) :
    Reads (readValue (fuel + 1)) stops (.bool b) (style.booleans.word b) := by
  have h : IsName (style.booleans.word b) ∧ ofWord (style.booleans.word b) = .bool b := by
    cases style.booleans <;> cases b <;> exact ⟨isName_of_isIdentifier (by decide), rfl⟩
  rw [← h.2]
  exact reads_name h.1

/-- Between two brackets there is less to read. -/
theorem exists_fuel {left inner right : String} (hl : 0 < left.length) (hr : 0 < right.length)
    (hf : (left ++ inner ++ right).length ≤ fuel) :
    ∃ k, fuel = k + 1 ∧ inner.length ≤ k := by
  rw [String.length_append, String.length_append] at hf
  exact ⟨fuel - 1, by omega, by omega⟩

/-- Whatever is written of a readable value is read as that value. -/
theorem Readable.reads {v : Value} (h : v.Readable) {t : String} (ht : v.Written style t)
    (hf : t.length ≤ fuel) : Reads (readValue (fuel + 1)) stops v t := by
  induction h generalizing t fuel with
  | null =>
      obtain rfl := Except.ok.inj ht
      exact reads_name (isName_of_isIdentifier (by decide : IsIdentifier "null"))
  | bool b =>
      obtain rfl := Except.ok.inj ht
      exact reads_bool b
  | int n =>
      obtain rfl := Except.ok.inj ht
      exact reads_int n
  | text h =>
      obtain rfl := Except.ok.inj ((written_text h).symm.trans ht)
      exact reads_text _
  | ref hname h =>
      obtain rfl := Except.ok.inj ht
      rw [← ofWord_of_isReserved h]
      exact reads_name hname.isName
  | @list items _ ih =>
      obtain ⟨ts, hts, rfl⟩ := written_list_iff.mp ht
      obtain ⟨fuel, rfl, hfuel⟩ := exists_fuel (by decide) (by decide) hf
      have hread : List.Forall₂ (Reads (readValue (fuel + 1)) stops) items ts :=
        forall₂_imp_of_mem hts fun v hv u hu hw =>
          ih v hv hw (Nat.le_trans (length_le_intercalate hu) hfuel)
      have hcount := length_le_of_reads hread ", "
      exact reads_list hread (by omega)
  | @map entries hkeys hnames _ ih =>
      obtain ⟨ts, hts, rfl⟩ := written_map_iff.mp ht
      obtain ⟨fuel, rfl, hfuel⟩ := exists_fuel (by decide) (by decide) hf
      have hread : List.Forall₂ (Reads (readEntry (readValue (fuel + 1))) stops) entries ts := by
        refine forall₂_imp_of_mem hts fun e he u hu hw => ?_
        obtain ⟨t, ht, rfl⟩ := hw
        have hle := Nat.le_trans (length_le_intercalate hu) hfuel
        rw [String.length_append] at hle
        exact reads_entry (hnames e he) (ih e he ht (by omega))
      have hcount := length_le_of_reads hread ", "
      exact reads_map hread (by omega) hkeys

theorem Readable.read_written {v : Value} (h : v.Readable) {t : String} (ht : v.Written style t)
    {rest : List Char} (hrest : Stops stops rest) : read (t.toList ++ rest) = some (v, rest) := by
  have hf : t.length ≤ (t.toList ++ rest).length := by
    rw [List.length_append, String.length_toList]
    omega
  exact (h.reads ht hf).reads rest hrest

/-- **The literal of a readable value is read as that value, up to where it ends.** -/
theorem read_literal (style : LiteralStyle) {v : Value} (h : v.Readable) {rest : List Char}
    (hrest : Stops stops rest) :
    ∃ text, v.literal style = .ok text ∧ read (text.toList ++ rest) = some (v, rest) := by
  obtain ⟨text, ht⟩ := h.exists_written
  refine ⟨text, ht, ?_⟩
  have hf : text.length ≤ (text.toList ++ rest).length := by
    rw [List.length_append, String.length_toList]
    omega
  exact (h.reads ht hf).reads rest hrest

/-- Brackets, quotes and digits inside texts are not taken for structure. -/
theorem read_literal_nested :
    ∃ text, (Value.list [.map [("k", .text "a', 'b\\]"), ("n2", .int (-5))], .text "12",
        .ref "node.name", .bool true, .list []]).literal {} = .ok text ∧
      read (text.toList ++ ")".toList) = some (.list [.map [("k", .text "a', 'b\\]"),
        ("n2", .int (-5))], .text "12", .ref "node.name", .bool true, .list []], ")".toList) := by
  have href : IsDotted "node.name" := ⟨["node", "name"], by decide, by decide, by decide⟩
  refine read_literal {} (.list ?_) (stops_cons.mpr (by decide))
  intro v hv
  simp only [List.mem_cons, List.not_mem_nil, or_false] at hv
  rcases hv with rfl | rfl | rfl | rfl | rfl
  · refine .map (by decide) (by decide) ?_
    intro e he
    simp only [List.mem_cons, List.not_mem_nil, or_false] at he
    rcases he with rfl | rfl
    · exact .text (by decide)
    · exact .int _
  · exact .text (by decide)
  · exact .ref href (by decide)
  · exact .bool true
  · exact .list (by simp)

end OpenCypher.Value
