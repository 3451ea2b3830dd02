import XPath.Proofs.Result
import XPath.Value.Cast

/-!
# The type of what a cast gives

Reading a text and converting a value give values of the type that was asked for, so a cast does:
its result has the target itself as its type, not one derived from it.  Therefore a second cast to
the same type changes nothing.
-/

namespace XPath

/-! ## 1. Reading -/

theorem kind_parse (kind : GregorianKind) (lexical : String) :
    Ensures (Gregorian.parse kind lexical) fun v => v.kind = kind := by
  unfold Gregorian.parse
  split
  · rename_i v hv
    rw [ensures_ok]
    -- every step of the reader gives a value, and the last one sets the kind
    simp only [Gregorian.read?, Option.bind_eq_bind, Option.bind_eq_some_iff] at hv
    rcases hv with ⟨_, _, _, _, _, _, h⟩
    cases h
    rfl
  · exact ensures_error

namespace Atomic

variable (v : Atomic) (t : AtomicType) (scope : Option Namespaces)

theorem type_gregorian {kind : GregorianKind} {r : Result Gregorian}
    (h : Ensures r fun w => w.kind = kind) :
    Ensures (r.map gregorian) fun w => w.type = kind.type := by
  rw [ensures_except_map]
  exact h.mono fun w hw => congrArg GregorianKind.type hw

/-- A reader that fails for want of a value. -/
theorem type_orError {α : Type} {t} {o : Option α} {c : α → Atomic} {e : Error}
    (h : ∀ a, (c a).type = t) :
    Ensures (match o.map c with | some w => .ok w | none => .error e) fun w => w.type = t := by
  cases o with
  | none => exact ensures_error
  | some a => exact ensures_ok.mpr (h a)

theorem type_ofLexical (lexical : String) :
    Ensures (ofLexical t lexical) fun w => w.type = t := by
  cases t with
  | string | untypedAtomic | anyURI => exact ensures_ok.mpr rfl
  | boolean | integer | float | double | hexBinary | base64Binary =>
    exact type_orError fun _ => rfl
  | decimal | dateTime | date | time | yearMonthDuration | dayTimeDuration | duration =>
    exact ensures_except_map.mpr (ensures_of_forall fun _ => rfl)
  | gYearMonth => exact type_gregorian (kind_parse .yearMonth lexical)
  | gYear => exact type_gregorian (kind_parse .year lexical)
  | gMonthDay => exact type_gregorian (kind_parse .monthDay lexical)
  | gDay => exact type_gregorian (kind_parse .day lexical)
  | gMonth => exact type_gregorian (kind_parse .month lexical)
  | qname | anyAtomic => exact ensures_error

theorem type_readAs (lexical : String) :
    Ensures (readAs lexical t scope) fun w => w.type = t := by
  unfold readAs
  split
  · rw [ensures_except_map]
    exact ensures_of_forall fun _ => rfl
  · exact type_ofLexical t lexical

/-! ## 2. Converting -/

theorem kind_toGregorian (kind : GregorianKind) :
    Ensures (v.toGregorian kind) fun w => w.kind = kind := by
  unfold toGregorian
  split <;> simp [Gregorian.ofDay]

theorem type_convert : Ensures (v.convert t) fun w => w.type = t := by
  cases t with
  | string | untypedAtomic => exact ensures_ok.mpr rfl
  | decimal | integer => exact ensures_except_map.mpr (ensures_of_forall fun _ => rfl)
  | gYearMonth => exact type_gregorian (kind_toGregorian v .yearMonth)
  | gYear => exact type_gregorian (kind_toGregorian v .year)
  | gMonthDay => exact type_gregorian (kind_toGregorian v .monthDay)
  | gDay => exact type_gregorian (kind_toGregorian v .day)
  | gMonth => exact type_gregorian (kind_toGregorian v .month)
  | anyURI | qname | anyAtomic => exact ensures_error
  -- the others convert from a few types only
  | boolean | double | float | duration | yearMonthDuration | dayTimeDuration | dateTime | date
  | time | hexBinary | base64Binary =>
    simp only [convert]
    split
    all_goals first
      | exact ensures_ok.mpr rfl
      | exact ensures_error

/-! ## 3. Casting -/

/-- A cast gives a value of the target. -/
theorem type_cast : Ensures (v.cast t scope) fun w => w.type = t := by
  unfold cast
  rw [ensures_ite]
  refine ⟨fun _ => ensures_error, fun _ => ?_⟩
  rw [ensures_ite]
  refine ⟨fun h => ?_, fun _ => ?_⟩
  · rw [ensures_ok]
    exact eq_of_beq h
  · split
    · exact type_readAs t scope _
    · exact type_readAs t scope _
    · exact type_convert v t

/-- A value of the target is its own cast. -/
theorem cast_of_type (ht : t ≠ .anyAtomic) (h : v.type = t) : v.cast t scope = .ok v := by
  unfold cast
  rw [if_neg (by simpa using ht), if_pos (by simpa using h)]

theorem ne_anyAtomic_of_cast {w : Atomic} (h : v.cast t scope = .ok w) : t ≠ .anyAtomic := by
  rintro rfl
  cases h

/-- What a cast gives is of the target type itself, and for a fragment of a date of its kind.
Nothing is cast to the abstract root, so that the result is its own cast to the target, whatever
namespaces are in scope then.  What is read as a type is of this type as well. -/
theorem cast_delivers_target (t : AtomicType) :
    (∀ v scope w, cast v t scope = .ok w →
      w.type = t ∧ t ≠ .anyAtomic ∧ ∀ scope', w.cast t scope' = .ok w) ∧
    ∀ lexical w, ofLexical t lexical = .ok w → w.type = t := by
  constructor
  · intro v scope w h
    have htype : w.type = t := type_cast v t scope w h
    have ht : t ≠ .anyAtomic := ne_anyAtomic_of_cast v t scope h
    exact ⟨htype, ht, fun scope' => cast_of_type w t scope' ht htype⟩
  · intro lexical w h
    exact type_ofLexical t lexical w h

/-- The month of a date, the integer that a decimal is and the months in a length of time. -/
theorem cast_delivers_target_sample :
    let month : Atomic := gregorian (.ofDay .month .epoch none)
    (cast (date ⟨.epoch, none⟩) .gMonth none = .ok month ∧ month.type = .gMonth ∧
      month.cast .gMonth none = .ok month) ∧
    (cast (decimal .one) .integer none = .ok (integer 1) ∧
      cast (integer 1) .integer none = .ok (integer 1)) ∧
    (cast (dayTimeDuration ⟨.one⟩) .yearMonthDuration none = .ok (yearMonthDuration (.ofMonths 0)) ∧
      cast (yearMonthDuration (.ofMonths 0)) .yearMonthDuration none =
        .ok (yearMonthDuration (.ofMonths 0))) ∧
    ofLexical .gMonth "--01" = .ok month ∧ month.type = .gMonth := by
  intro month
  have hmonth : cast (date ⟨.epoch, none⟩) .gMonth none = .ok month := rfl
  have hinteger : cast (decimal .one) .integer none = .ok (integer 1) := rfl
  have hmonths : cast (dayTimeDuration ⟨.one⟩) .yearMonthDuration none =
      .ok (yearMonthDuration (.ofMonths 0)) := rfl
  have hread : ofLexical .gMonth "--01" = .ok month := rfl
  rcases (cast_delivers_target .gMonth).1 _ _ _ hmonth with ⟨hkind, -, hagain⟩
  have hagain' := ((cast_delivers_target .integer).1 _ _ _ hinteger).2.2 none
  have hagain'' := ((cast_delivers_target .yearMonthDuration).1 _ _ _ hmonths).2.2 none
  have hkind' := (cast_delivers_target .gMonth).2 _ _ hread
  exact ⟨⟨hmonth, hkind, hagain none⟩, ⟨hinteger, hagain'⟩, ⟨hmonths, hagain''⟩, hread, hkind'⟩

end Atomic

end XPath
