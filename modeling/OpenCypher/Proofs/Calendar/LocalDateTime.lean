import OpenCypher.Proofs.Calendar.Reader

/-! # Dates and local moments read back

The literal of a date gives back the date, and the literal of a local moment its date and time to
the microsecond (`local_date_times_read_back`).  Two local moments have the same literal just if no
clock that counts microseconds tells them apart, in leap seconds too (`chars_inj`). -/

namespace OpenCypher.Calendar

open Decimal Text

/-! ### Times with the same text -/

/-- The parts of a text with fields of two digits in front of the fraction are determined by it. -/
theorem ClockText.chars_inj {x y : ClockText} (hx : x.Aligned) (hy : y.Aligned)
    (h : x.chars = y.chars) : x = y := by
  obtain ⟨hour, minute, second, fraction⟩ := x
  obtain ⟨hour', minute', second', fraction'⟩ := y
  obtain ⟨⟨hhour, -⟩, ⟨hminute, -⟩, ⟨hsecond, -⟩⟩ := hx
  obtain ⟨⟨hhour', -⟩, ⟨hminute', -⟩, ⟨hsecond', -⟩⟩ := hy
  simp only [chars, List.append_assoc, List.cons_append] at h
  obtain ⟨rfl, h₁⟩ := List.append_inj h (hhour.trans hhour'.symm)
  obtain ⟨rfl, h₂⟩ := List.append_inj (List.cons.inj h₁).2 (hminute.trans hminute'.symm)
  obtain ⟨rfl, h₃⟩ := List.append_inj (List.cons.inj h₂).2 (hsecond.trans hsecond'.symm)
  have hfraction : fraction = fraction' := by
    by_cases hf : fraction = [] <;> by_cases hf' : fraction' = []
    · rw [hf, hf']
    · simp [hf, hf'] at h₃
    · simp [hf, hf'] at h₃
    · simpa [hf, hf'] using h₃
  rw [hfraction]

theorem TimeOfDay.chars_inj {t u : TimeOfDay} : t.chars = u.chars ↔ t.onClock = u.onClock := by
  constructor
  · intro h
    rw [← chars_clockText, ← chars_clockText] at h
    have hparts := ClockText.chars_inj t.aligned_clockText u.aligned_clockText h
    have hhour : t.hour = u.hour := padded_inj.mp (congrArg ClockText.hour hparts)
    have hminute : t.minute = u.minute := padded_inj.mp (congrArg ClockText.minute hparts)
    have hshown : t.shownSecond = u.shownSecond :=
      padded_inj.mp (congrArg ClockText.second hparts)
    have hmicros : t.nanosecond / 1000 = u.nanosecond / 1000 := by
      rw [← value_fraction, ← value_fraction, hparts]
    -- a leap second shows in the microseconds as well
    have hsecond : t.second = u.second := by
      rw [shownSecond, shownSecond, nanosPerSecond] at hshown
      omega
    rw [onClock, onClock, hhour, hminute, hsecond, hmicros]
  · intro h
    obtain ⟨hhour, hminute, hsecond, hmicros⟩ := ClockTime.mk.inj h
    have hshown : t.shownSecond = u.shownSecond := by
      rw [shownSecond, shownSecond, nanosPerSecond]
      omega
    rw [chars, chars, clockChars, clockChars, hhour, hminute, hshown, hmicros]

/-! ### Moments with the same text -/

theorem LocalDateTime.chars_inj {m n : LocalDateTime} :
    m.chars = n.chars ↔ m.date = n.date ∧ m.time.onClock = n.time.onClock := by
  constructor
  · intro h
    have hm := Date.read?_append m.date ('T' :: m.time.chars)
    have hn := Date.read?_append n.date ('T' :: n.time.chars)
    rw [chars, chars] at h
    rw [h, hn, Option.some.injEq, Prod.mk.injEq, List.cons.injEq] at hm
    exact ⟨hm.1.symm, TimeOfDay.chars_inj.mp hm.2.2.symm⟩
  · rintro ⟨hdate, htime⟩
    rw [chars, chars, hdate, TimeOfDay.chars_inj.mpr htime]

theorem constructed_inj {function : String} {s t : List Char} :
    Value.constructed function s = Value.constructed function t ↔ s = t := by
  refine ⟨fun h => ?_, fun h => h ▸ rfl⟩
  rw [← String.toList_inj] at h
  simpa [Value.constructed] using h

/-! ### Reading back -/

/-- **Dates are read back from their literals, and local moments to the microsecond.** -/
theorem local_date_times_read_back (style : LiteralStyle) :
    (∀ d : Date, ∃ text, (Value.date d).literal style = .ok text ∧
      readConstructed "date" Date.read? text = some d) ∧
    (∀ m : LocalDateTime, m.time.isLeapSecond = false →
      ∃ text, (Value.localDateTime m).literal style = .ok text ∧
        readConstructed "localDateTime" LocalDateTime.read? text =
          some (m.date, m.time.onClock)) ∧
    ∀ m n : LocalDateTime,
      (Value.localDateTime m).literal style = (Value.localDateTime n).literal style ↔
        m.date = n.date ∧ m.time.onClock = n.time.onClock := by
  refine ⟨fun d => ⟨_, rfl, ?_⟩, fun m h => ⟨_, rfl, ?_⟩, fun m n => ?_⟩
  · exact readConstructed_constructed _ (d.read?_append _)
  · exact readConstructed_constructed _ (LocalDateTime.read?_append h (by decide))
  · rw [Value.literal, Value.literal, Except.ok.injEq, constructed_inj, LocalDateTime.chars_inj]

/-- The hyphen in front of a negative year is not taken for one between the fields. -/
theorem local_date_times_read_back_negative_year :
    let m : LocalDateTime := ⟨⟨-12345, 2, 28, by decide⟩, ⟨7, 0, 59, 5000, by decide⟩⟩
    m.time.isLeapSecond = false ∧
      ∃ text, (Value.localDateTime m).literal {} = .ok text ∧
        readConstructed "localDateTime" LocalDateTime.read? text =
          some (m.date, ⟨7, 0, 59, 5⟩) := by
  intro m
  have hclock : m.time.onClock = ⟨7, 0, 59, 5⟩ := by decide
  rw [← hclock]
  exact ⟨by decide, (local_date_times_read_back {}).2.1 m (by decide)⟩

end OpenCypher.Calendar
