import OpenCypher.Proofs.Query.Quoted

/-! # Where a quoted text ends

A quoted text shows where it ends, whatever follows it: read from its opening quote on, it gives
back the text that was quoted and leaves what follows, and nothing shorter that it starts with can
be read.  So a text in a query can neither end its literal early nor reach into what stands behind
it (`quotes_end_themselves`).  Values that are reserved words are written bare; they are made of
letters alone. -/

namespace OpenCypher

namespace Text

/-! ### Scanning what goes on -/

theorem scanBody_cons_of_ne {c : Char} (h : c ≠ '\\') (r : List Char) :
    scanBody (c :: r) =
      if c = '\'' then some ([], r) else (scanBody r).map fun p => (c :: p.1, p.2) :=
  scanBody.eq_3 c r fun _ _ hc _ => h hc

/-- A scan does not look at what follows the quote where it stops. -/
theorem scanBody_append {t text rest : List Char} (h : scanBody t = some (text, rest))
    (more : List Char) : scanBody (t ++ more) = some (text, rest ++ more) := by
  fun_induction scanBody t generalizing text rest with
  | case1 => cases h
  | case2 c r ih =>
      obtain ⟨⟨read, left⟩, hr, heq⟩ := Option.map_eq_some_iff.mp h
      cases heq
      simp [scanBody, ih hr]
  | case3 r =>
      cases h
      rw [List.cons_append, scanBody_cons_of_ne (by decide), if_pos rfl]
  | case4 c r hesc hc ih =>
      obtain ⟨⟨read, left⟩, hr, heq⟩ := Option.map_eq_some_iff.mp h
      cases heq
      have hne : c ≠ '\\' := by
        rintro rfl
        -- A backslash at the very end leaves nothing to be read.
        cases r with
        | nil => cases hr
        | cons d r => exact hesc d r rfl rfl
      rw [List.cons_append, scanBody_cons_of_ne hne, if_neg hc, ih hr]
      rfl

theorem scan_append {t text rest : List Char} (h : scan t = some (text, rest))
    (more : List Char) : scan (t ++ more) = some (text, rest ++ more) := by
  cases t with
  | nil => cases h
  | cons c r =>
      rw [scan] at h
      split at h
      · next hc => rw [List.cons_append, scan, if_pos hc, scanBody_append h]
      · cases h

/-- A quoted text does not end before its last character. -/
theorem scan_of_append_eq_quoteChars {s early late : List Char} (h : early ++ late = quoteChars s)
    (hlate : late ≠ []) : scan early = none := by
  by_contra hne
  obtain ⟨⟨text, rest⟩, hearly⟩ := Option.ne_none_iff_exists'.mp hne
  have hwhole : scan (quoteChars s) = some (s, []) := by
    simpa using scan_quote s []
  rw [← h, scan_append hearly, Option.some.injEq, Prod.mk.injEq, List.append_eq_nil_iff] at hwhole
  exact hlate hwhole.2.2

/-! ### Letters -/

theorem isAlpha_of_isAlpha_toLower {c : Char} (h : c.toLower.isAlpha = true) :
    c.isAlpha = true := by
  by_cases hc : c.isUpper = true
  · exact Bool.or_eq_true_iff.mpr (.inl hc)
  · have hsame : c.toLower = c := by
      unfold Char.isUpper at hc
      unfold Char.toLower
      split
      · next hrange => exact absurd (decide_eq_true hrange) hc
      · rfl
    rw [← hsame]
    exact h

end Text

theorem Value.isAlpha_of_isReserved {s : String} (h : isReserved s = true) :
    ∀ c ∈ s.toList, c.isAlpha = true := by
  obtain ⟨word, hword, hsame⟩ := List.any_eq_true.mp h
  have hletters : reserved.all (fun w => (Text.lowered w.toList).all Char.isAlpha) = true := by
    decide
  intro c hc
  rw [Text.sameWord, beq_iff_eq] at hsame
  have hlowered : c.toLower ∈ Text.lowered word.toList := by
    rw [← hsame]
    exact List.mem_map_of_mem hc
  exact Text.isAlpha_of_isAlpha_toLower
    (List.all_eq_true.mp (List.all_eq_true.mp hletters word hword) _ hlowered)

namespace Query

open Text

/-- **A quoted text ends where its quote does.**  Whatever follows it, scanning gives back the text
and leaves just what follows, and nothing shorter can be scanned.  A text that is put into a query,
as a value or as the path of a file, stands quoted between two texts that do not depend on it;
there, too, it is read back and leaves the same text as any other.  A value that is a reserved word
is written without quotes, in letters alone; a path never is. -/
theorem quotes_end_themselves (s : String) :
    (∀ rest, scan ((quote s).toList ++ rest) = some (s.toList, rest)) ∧
    (∀ early late, early ++ late = (quote s).toList → late ≠ [] → scan early = none) ∧
    (∀ style : LiteralStyle,
      (Value.text s).Written style (if Value.isReserved s then s else quote s)) ∧
    (Value.isReserved s = true → ∀ c ∈ s.toList, c.isAlpha = true) ∧
    ∀ {settings : Settings} {before after : List Step} {slot : Slot} {q : Query}, slot.Quotes s →
      applyAll { settings } (before ++ slot.fill s :: after) = .ok q →
        ∃ left right, q.rawText = left ++ quote s ++ right ∧
          scan ((quote s).toList ++ right.toList) = some (s.toList, right.toList) ∧
          ∀ t, slot.Quotes t → ∃ r,
            applyAll { settings } (before ++ slot.fill t :: after) = .ok r ∧
              r.rawText = left ++ quote t ++ right ∧
              scan ((quote t).toList ++ right.toList) = some (t.toList, right.toList) := by
  have hscan : ∀ (t : String) (rest : List Char),
      scan ((quote t).toList ++ rest) = some (t.toList, rest) := by
    intro t rest
    rw [toList_quote, scan_quote]
  refine ⟨hscan s, fun early late h hlate => ?_, fun style => rfl, Value.isAlpha_of_isReserved,
    fun hs h => ?_⟩
  · rw [toList_quote] at h
    exact scan_of_append_eq_quoteChars h hlate
  · obtain ⟨left, right, hq, hfill⟩ := rawText_quotes hs h
    refine ⟨left, right, hq, hscan s _, fun t ht => ?_⟩
    obtain ⟨r, hr, htext⟩ := hfill t ht
    exact ⟨r, hr, htext, hscan t _⟩

/-- A path with a quote and a backslash at its end, and a path that is a reserved word. -/
theorem quotes_end_themselves_path :
    scan "'it\\'s\\\\' WITH HEADER AS row ".toList =
        some ("it's\\".toList, " WITH HEADER AS row ".toList) ∧
      ∃ q left right, applyAll {} [.loadCsv "it's\\" true "row"] = .ok q ∧
        q.rawText = left ++ quote "it's\\" ++ right ∧
        ∃ r, applyAll {} [.loadCsv "null" true "row"] = .ok r ∧
          r.rawText = left ++ quote "null" ++ right := by
  obtain ⟨hscan, -, -, -, hslot⟩ := quotes_end_themselves "it's\\"
  refine ⟨hscan " WITH HEADER AS row ".toList, ?_⟩
  obtain ⟨left, right, hq, -, hfill⟩ :=
    @hslot {} [] [] (.csvPath true "row") _ trivial rfl
  obtain ⟨r, hr, htext, -⟩ := hfill "null" trivial
  exact ⟨_, left, right, rfl, hq, r, hr, htext⟩

end Query
end OpenCypher
