import XPath.Proofs.Time.Lexical

/-!
# Dates and times and their texts

The text of a date or time is read back as the same value, for all eight types.  The only exception
is the year 0: the calendar has it, but no lexical form does.
-/

namespace XPath

open XPath.Calendar Temporal

namespace Atomic

/-- Whether a value is a date, a time or a fragment of a date, with a year that is not 0 if it has
one, in a time zone of at most fourteen hours if it has one. -/
def IsTemporal : Atomic → Prop
  | dateTime v => v.fields.day.year ≠ 0 ∧ ZoneInRange v.zone
  | date v => v.day.year ≠ 0 ∧ ZoneInRange v.zone
  | time v => ZoneInRange v.zone
  | gregorian v => v.IsReference ∧ (v.kind.hasYear → v.day.year ≠ 0) ∧ ZoneInRange v.zone
  | _ => False

theorem ofLexical_gregorian (kind : GregorianKind) (lexical : String) :
    ofLexical kind.type lexical = (Gregorian.parse kind lexical).map gregorian := by
  cases kind <;> rfl

/-- Every date, time and fragment of a date is read back from its text. -/
theorem ofLexical_text {v : Atomic} (h : v.IsTemporal) : ofLexical v.type v.text = .ok v := by
  cases v with
  | dateTime v =>
    obtain ⟨h0, hz⟩ := h
    change (DateTime.parse v.text).map dateTime = _
    rw [DateTime.parse_text hz, if_neg h0]
    rfl
  | date v =>
    obtain ⟨h0, hz⟩ := h
    change (Date.parse v.text).map date = _
    rw [Date.parse_text hz, if_neg h0]
    rfl
  | time v =>
    change (Time.parse v.text).map time = _
    rw [Time.parse_text h]
    rfl
  | gregorian v =>
    obtain ⟨hv, h0, hz⟩ := h
    change ofLexical v.kind.type v.text = _
    rw [ofLexical_gregorian, Gregorian.parse_text hv hz, if_neg (fun hyear => h0 hyear.1 hyear.2)]
    rfl
  | _ => exact h.elim

/-- The last nanosecond of the year -1, as far west as there is a time zone. -/
def sampleInstant : Atomic := dateTime
  ⟨⟨⟨-719529, by decide⟩, ⟨86399999999999, by decide⟩⟩, some ⟨-840⟩⟩

theorem ofLexical_text_sample : sampleInstant.IsTemporal ∧
    sampleInstant.text = "-0001-12-31T23:59:59.999999999-14:00" ∧
      ofLexical .dateTime "-0001-12-31T23:59:59.999999999-14:00" = .ok sampleInstant := by
  have htext : sampleInstant.text = "-0001-12-31T23:59:59.999999999-14:00" := by decide
  have htemporal : sampleInstant.IsTemporal := by
    refine ⟨by decide, ?_⟩
    intro z hz
    obtain rfl := Option.mem_some_iff.mp hz
    decide
  exact ⟨htemporal, htext, htext ▸ ofLexical_text htemporal⟩

end Atomic

end XPath
