import OpenCypher.Proofs.Text.Words
import OpenCypher.Schema.Trigger

/-! # Event texts

A listing says what sets a trigger off in one of three ways: by the word ANY, by the keyword of an
event, or by the pattern of an object and the keyword of what happens to it.  The reader takes just
the texts of this grammar (`EventText`), wherever blanks stand at their ends, for what they describe
(`readEvent_eq_ok_iff`), and reports all others (`event_texts_read`). -/

namespace OpenCypher

open Text

/-! ### The word for any event -/

/-- Besides itself, only its capital is written as a small letter in lower case. -/
theorem Text.toLower_eq_iff {c small capital : Char}
    (hsmall : 97 ≤ small.toNat ∧ small.toNat ≤ 122)
    (hcapital : capital.toNat + 32 = small.toNat) :
    c.toLower = small ↔ c = small ∨ c = capital := by
  have ext : ∀ d e : Char, d = e ↔ d.val.toNat = e.val.toNat := fun d e => by
    rw [Char.ext_iff, UInt32.toNat_inj]
  have hA : 'A'.val.toNat = 65 := rfl
  have hZ : 'Z'.val.toNat = 90 := rfl
  have hshift : ('a'.val - 'A'.val).toNat = 32 := rfl
  unfold Char.toNat at hsmall hcapital
  unfold Char.toLower
  simp only [ge_iff_le, UInt32.le_iff_toNat_le, ext]
  split
  · next h =>
    rw [UInt32.toNat_add, hshift]
    omega
  · next h => omega

namespace Trigger

/-- The word ANY, with each of its letters large or small. -/
def IsAnyWord (s : List Char) : Prop :=
  ∃ a n y, s = [a, n, y] ∧ (a = 'a' ∨ a = 'A') ∧ (n = 'n' ∨ n = 'N') ∧ (y = 'y' ∨ y = 'Y')

theorem sameWord_any_iff {s : String} : sameWord s "ANY" = true ↔ IsAnyWord s.toList := by
  have ha (c : Char) : c.toLower = 'a' ↔ c = 'a' ∨ c = 'A' := toLower_eq_iff (by decide) rfl
  have hn (c : Char) : c.toLower = 'n' ↔ c = 'n' ∨ c = 'N' := toLower_eq_iff (by decide) rfl
  have hy (c : Char) : c.toLower = 'y' ↔ c = 'y' ∨ c = 'Y' := toLower_eq_iff (by decide) rfl
  have hany : lowered "ANY".toList = ['a', 'n', 'y'] := by decide
  rw [sameWord, hany, beq_iff_eq, lowered, IsAnyWord]
  constructor
  · intro h
    obtain ⟨a, s, hs, ea, h⟩ := List.map_eq_cons_iff.mp h
    obtain ⟨n, s, rfl, en, h⟩ := List.map_eq_cons_iff.mp h
    obtain ⟨y, s, rfl, ey, h⟩ := List.map_eq_cons_iff.mp h
    obtain rfl := List.map_eq_nil_iff.mp h
    exact ⟨a, n, y, hs, (ha a).mp ea, (hn n).mp en, (hy y).mp ey⟩
  · rintro ⟨a, n, y, hs, ea, en, ey⟩
    rw [hs, List.map_cons, List.map_cons, List.map_cons, List.map_nil, (ha a).mpr ea,
      (hn n).mpr en, (hy y).mpr ey]

theorem IsAnyWord.space_not_mem {s : List Char} (h : IsAnyWord s) : ' ' ∉ s := by
  obtain ⟨a, n, y, rfl, ha, hn, hy⟩ := h
  rcases ha with rfl | rfl <;> rcases hn with rfl | rfl <;> rcases hy with rfl | rfl <;> decide

end Trigger

/-! ### Keywords -/

namespace TriggerEvent

theorem ofKeyword?_eq_some_iff {word : String} {event : TriggerEvent} :
    ofKeyword? word = some event ↔ word = event.keyword := by
  constructor
  · intro h
    have hkeyword := List.find?_some h
    exact (of_decide_eq_true hkeyword).symm
  · rintro rfl
    cases event <;> rfl

theorem trimmed_keyword (event : TriggerEvent) : Trimmed event.keyword.toList := by
  have hstart : StartsInInk event.keyword.toList := by
    cases event <;> exact ⟨_, rfl, by decide⟩
  have hend : EndsInInk event.keyword.toList := by
    cases event <;> exact ⟨_, rfl, by decide⟩
  exact trimmed_of_ink hstart hend

theorem space_not_mem_keyword (event : TriggerEvent) : ' ' ∉ event.keyword.toList := by
  cases event <;> decide

theorem not_isAnyWord_keyword (event : TriggerEvent) :
    ¬ Trigger.IsAnyWord event.keyword.toList := by
  rintro ⟨a, n, y, h, -⟩
  cases event <;> cases h

end TriggerEvent

/-! ### Patterns -/

namespace Trigger

theorem splitSpace_append {front : List Char} (h : ' ' ∉ front) (rest : List Char) :
    splitSpace (front ++ ' ' :: rest) = some (front, rest) := by
  induction front with
  | nil => rfl
  | cons c front ih =>
      obtain ⟨hc, hfront⟩ := not_or.mp (mt List.mem_cons.mpr h)
      rw [List.cons_append, splitSpace, if_neg (Ne.symm hc), ih hfront]
      rfl

theorem eq_of_splitSpace {s front rest : List Char} (h : splitSpace s = some (front, rest)) :
    s = front ++ ' ' :: rest := by
  induction s generalizing front with
  | nil => cases h
  | cons c s ih =>
      rw [splitSpace] at h
      split at h
      · next hc =>
        cases h
        rw [hc]
        rfl
      · obtain ⟨⟨front, rest⟩, hs, hp⟩ := Option.map_eq_some_iff.mp h
        cases hp
        rw [ih hs]
        rfl

/-- The objects that have a pattern. -/
def drawnObjects : List TriggerObject := [.node, .relationship]

theorem splitObject_pattern {object : TriggerObject} (h : object ∈ drawnObjects)
    (rest : List Char) : splitObject (object.pattern.toList ++ ' ' :: rest) = (object, rest) := by
  have hspace : ' ' ∉ object.pattern.toList := by
    cases object <;> decide
  rw [splitObject, splitSpace_append hspace]
  cases object with
  | anything => exact absurd h (by decide)
  | node => rfl
  | relationship => rfl

/-- A text is split behind a pattern if it starts with one, and else it is left whole. -/
theorem splitObject_cases (s : List Char) :
    (∃ object ∈ drawnObjects, ∃ rest, s = object.pattern.toList ++ ' ' :: rest) ∨
      splitObject s = (.anything, s) := by
  unfold splitObject
  split
  · next front rest h =>
    have hs := eq_of_splitSpace h
    split
    · next hfront => exact .inl ⟨.node, by decide, rest, hfront ▸ hs⟩
    · split
      · next hfront => exact .inl ⟨.relationship, by decide, rest, hfront ▸ hs⟩
      · exact .inr rfl
  · exact .inr rfl

theorem splitObject_of_space_not_mem {s : List Char} (h : ' ' ∉ s) :
    splitObject s = (.anything, s) := by
  rcases splitObject_cases s with ⟨object, -, rest, rfl⟩ | hs
  · exact absurd (by simp) h
  · exact hs

/-! ### The grammar -/

/-- A text describes an event and the object that it happens to, or leaves both open. -/
inductive EventText : List Char → Option TriggerEvent → Option TriggerObject → Prop
  | any {s : List Char} (h : IsAnyWord s) : EventText s none none
  | bare (event : TriggerEvent) : EventText event.keyword.toList (some event) (some .anything)
  | drawn (event : TriggerEvent) {object : TriggerObject} (h : object ∈ drawnObjects)
      {gap : List Char} (hgap : isAllBlank gap = true) :
      EventText (object.pattern.toList ++ ' ' :: (gap ++ event.keyword.toList)) (some event)
        (some object)

theorem readEvent_of_any {text : String} (h : IsAnyWord (trim text.toList)) :
    readEvent text = .ok (none, none) := by
  rw [readEvent]
  dsimp only
  rw [if_pos]
  rwa [sameWord_any_iff, toList_trimmed]

/-- Any other text than the word ANY has to be a keyword behind the pattern of the object. -/
theorem readEvent_eq_ok_iff_of_split {text : String} (h : ¬ IsAnyWord (trim text.toList))
    {object : TriggerObject} {rest : List Char}
    (hsplit : splitObject (trim text.toList) = (object, rest))
    {what : Option TriggerEvent × Option TriggerObject} :
    readEvent text = .ok what ↔
      ∃ event, what = (some event, some object) ∧ trim rest = event.keyword.toList := by
  have hword : ¬ sameWord (trimmed text) "ANY" = true := by
    rwa [sameWord_any_iff, toList_trimmed]
  have hkeyword (event : TriggerEvent) :
      TriggerEvent.ofKeyword? (trimmed (String.ofList rest)) = some event ↔
        trim rest = event.keyword.toList := by
    rw [TriggerEvent.ofKeyword?_eq_some_iff, ← String.toList_inj, toList_trimmed,
      String.toList_ofList]
  rw [readEvent]
  dsimp only
  rw [if_neg hword, toList_trimmed, hsplit]
  dsimp only
  simp only [← hkeyword]
  cases TriggerEvent.ofKeyword? (trimmed (String.ofList rest)) with
  | none => simp
  | some event => simp [eq_comm]

/-- **A text is read just if it is a text of the grammar, and for what it describes.** -/
theorem readEvent_eq_ok_iff {text : String} {event : Option TriggerEvent}
    {object : Option TriggerObject} :
    readEvent text = .ok (event, object) ↔ EventText (trim text.toList) event object := by
  have htrimmed := trimmed_trim text.toList
  constructor
  · intro h
    by_cases hany : IsAnyWord (trim text.toList)
    · rw [readEvent_of_any hany] at h
      cases h
      exact .any hany
    · rcases splitObject_cases (trim text.toList) with ⟨object, ho, rest, hs⟩ | hs
      · have hsplit := splitObject_pattern ho rest
        rw [← hs] at hsplit
        obtain ⟨event, hwhat, hrest⟩ := (readEvent_eq_ok_iff_of_split hany hsplit).mp h
        cases hwhat
        obtain ⟨-, gap, gap', hgap, hgap', rfl⟩ := trim_eq_iff.mp hrest
        -- The text is trimmed, so no blanks stand behind the keyword.
        have e : object.pattern.toList ++ ' ' :: (gap ++ event.keyword.toList ++ gap') =
            object.pattern.toList ++ ' ' :: (gap ++ event.keyword.toList) ++ gap' := by
          simp
        rw [hs, e] at htrimmed ⊢
        rw [htrimmed.eq_nil_of_append hgap', List.append_nil]
        exact .drawn event ho hgap
      · obtain ⟨event, hwhat, hrest⟩ := (readEvent_eq_ok_iff_of_split hany hs).mp h
        cases hwhat
        rw [htrimmed.trim_eq] at hrest
        rw [hrest]
        exact .bare event
  · intro h
    generalize hs : trim text.toList = s at h
    cases h with
    | any h => exact readEvent_of_any (hs ▸ h)
    | bare event =>
        have hsplit := splitObject_of_space_not_mem event.space_not_mem_keyword
        have hany := event.not_isAnyWord_keyword
        rw [← hs] at hany hsplit
        exact (readEvent_eq_ok_iff_of_split hany hsplit).mpr
          ⟨event, rfl, by rw [hs, event.trimmed_keyword.trim_eq]⟩
    | @drawn event object ho gap hgap =>
        have hsplit := splitObject_pattern ho (gap ++ event.keyword.toList)
        have hany : ¬ IsAnyWord (object.pattern.toList ++ ' ' :: (gap ++ event.keyword.toList)) :=
          fun h => h.space_not_mem (by simp)
        rw [← hs] at hany hsplit
        refine (readEvent_eq_ok_iff_of_split hany hsplit).mpr ⟨event, rfl, ?_⟩
        rw [trim_blank_append hgap, event.trimmed_keyword.trim_eq]

theorem category_of_readEvent {text : String} {e : Error} (h : readEvent text = .error e) :
    e = .unknownEvent (trimmed text) ∧ e.category = .query := by
  have he : e = .unknownEvent (trimmed text) := by
    rw [readEvent] at h
    dsimp only at h
    split at h
    · cases h
    · split at h
      · cases h
      · exact (Except.error.inj h).symm
  exact ⟨he, he ▸ rfl⟩

theorem eventText_bare_iff {s : List Char} {event : TriggerEvent} :
    EventText s (some event) (some .anything) ↔ s = event.keyword.toList := by
  constructor
  · intro h
    cases h with
    | bare => rfl
    | drawn _ h => exact absurd h (by decide)
  · rintro rfl
    exact .bare event

theorem eventText_drawn_iff {s : List Char} {event : TriggerEvent} {object : TriggerObject}
    (ho : object ∈ drawnObjects) :
    EventText s (some event) (some object) ↔ ∃ gap, isAllBlank gap = true ∧
      s = object.pattern.toList ++ ' ' :: (gap ++ event.keyword.toList) := by
  constructor
  · intro h
    cases h with
    | bare => exact absurd ho (by decide)
    | drawn _ _ hgap => exact ⟨_, hgap, rfl⟩
  · rintro ⟨gap, hgap, rfl⟩
    exact .drawn event ho hgap

theorem eventText_any_iff {s : List Char} : EventText s none none ↔ IsAnyWord s :=
  ⟨fun | .any h => h, .any⟩

/-- **What an event text is read as.**  The blanks at its ends do not count.  The word ANY leaves
the event open; a keyword alone is about anything, and behind the pattern of an object, a space and
any further blanks it is about that object.  Every other text is reported. -/
theorem event_texts_read (text : String) :
    (readEvent text = .ok (none, none) ↔ IsAnyWord (trimmed text).toList) ∧
    (∀ event, readEvent text = .ok (some event, some .anything) ↔
      trimmed text = event.keyword) ∧
    (∀ event, ∀ object ∈ [TriggerObject.node, .relationship],
      (readEvent text = .ok (some event, some object) ↔ ∃ gap : String,
        isAllBlank gap.toList = true ∧
          trimmed text = object.pattern ++ " " ++ gap ++ event.keyword)) ∧
    (∀ e, readEvent text = .error e ↔ e = .unknownEvent (trimmed text) ∧
      ∀ event object, ¬ EventText (trimmed text).toList event object) ∧
    ∀ e, readEvent text = .error e → e.category = .query := by
  rw [toList_trimmed]
  refine ⟨?_, fun event => ?_, fun event object ho => ?_, fun e => ?_, fun e he => ?_⟩
  · rw [readEvent_eq_ok_iff, eventText_any_iff]
  · rw [readEvent_eq_ok_iff, eventText_bare_iff, ← toList_trimmed, String.toList_inj]
  · rw [readEvent_eq_ok_iff, eventText_drawn_iff ho]
    constructor
    · rintro ⟨gap, hgap, h⟩
      refine ⟨String.ofList gap, by rwa [String.toList_ofList], ?_⟩
      rw [← String.toList_inj, toList_trimmed, h]
      simp
    · rintro ⟨gap, hgap, h⟩
      refine ⟨gap.toList, hgap, ?_⟩
      rw [← toList_trimmed, h]
      simp
  · constructor
    · intro he
      refine ⟨(category_of_readEvent he).1, fun event object h => ?_⟩
      rw [readEvent_eq_ok_iff.mpr h] at he
      cases he
    · rintro ⟨rfl, hnone⟩
      cases h : readEvent text with
      | ok what => exact absurd (readEvent_eq_ok_iff.mp h) (hnone what.1 what.2)
      | error e => rw [(category_of_readEvent h).1]
  · exact (category_of_readEvent he).2

/-- Any blanks may follow the space behind a pattern, but no other blank may take its place. -/
theorem event_texts_read_blanks :
    readEvent "\t--> \u00a0DELETE\n" = .ok (some .delete, some .relationship) ∧
    readEvent "-->\u00a0DELETE" ≠ .ok (some .delete, some .relationship) := by
  constructor
  · exact ((event_texts_read _).2.2.1 .delete .relationship (by decide)).mpr
      ⟨"\u00a0", by decide, by decide⟩
  · intro h
    obtain ⟨gap, -, e⟩ := ((event_texts_read _).2.2.1 .delete .relationship (by decide)).mp h
    have hspace : ' ' ∈ (trimmed "-->\u00a0DELETE").toList := by
      rw [e]
      simp
    exact absurd hspace (by decide)

end Trigger
end OpenCypher
