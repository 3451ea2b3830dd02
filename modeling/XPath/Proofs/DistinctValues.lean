import XPath.Library.Sequences
import XPath.Proofs.Equality

/-!
# Distinct values

Of several equal values the first one is kept.  Each value is compared with those that are kept so
far; since equality is symmetric and transitive, it may as well be compared with all that come
before it, and the number of values that are kept does not depend on the order.  Equality is no
equivalence relation, though: a date that has no place on the time line does not equal itself, and
is kept as often as it occurs.
-/

namespace XPath

/-! ## 1. New elements of a list -/

section NewElements

variable {α : Type} (r : α → α → Prop)

/-- An equivalence relation, but for elements that are related to none, not even to themselves. -/
structure IsPartialEquivalence : Prop where
  symm : ∀ {a b}, r a b → r b a
  trans : ∀ {a b c}, r a b → r b c → r a c

/-- Whether an element is related to one of `seen`. -/
def IsSeen (seen : List α) (a : α) : Prop := ∃ b ∈ seen, r b a

instance [DecidableRel r] (seen : List α) (a : α) : Decidable (IsSeen r seen a) :=
  inferInstanceAs (Decidable (∃ b ∈ seen, r b a))

/-- The elements that are related neither to one of `seen` nor to one that is kept before them. -/
def keepNew [DecidableRel r] (seen : List α) : List α → List α
  | [] => []
  | a :: l => if IsSeen r seen a then keepNew seen l else a :: keepNew (seen ++ [a]) l

/-- Whether the element at a place is related to none before it. -/
def IsNewAt (l : List α) (i : ℕ) : Prop := ∃ a, l[i]? = some a ∧ ¬ IsSeen r (l.take i) a

/-- Whether a list has the elements of `l` that are related to none before them, in their order. -/
def HasNewElements (l kept : List α) : Prop :=
  ∃ places : List ℕ, places.Pairwise (· < ·) ∧ (∀ i, i ∈ places ↔ IsNewAt r l i) ∧
    kept = places.filterMap (l[·]?)

variable {r} {seen seen' l l' before : List α} {a b : α}

theorem isSeen_append : IsSeen r (seen ++ [a]) b ↔ IsSeen r seen b ∨ r a b := by
  simp only [IsSeen, List.mem_append, List.mem_singleton, or_and_right, exists_or,
    exists_eq_left]

theorem isSeen_iff_of_related (hr : IsPartialEquivalence r) (h : r a b) :
    IsSeen r seen a ↔ IsSeen r seen b := by
  constructor
  · rintro ⟨c, hc, hca⟩
    exact ⟨c, hc, hr.trans hca h⟩
  · rintro ⟨c, hc, hcb⟩
    exact ⟨c, hc, hr.trans hcb (hr.symm h)⟩

theorem isNewAt_length : IsNewAt r (before ++ a :: l) before.length ↔ ¬ IsSeen r before a := by
  simp [IsNewAt]

section Kept

variable [DecidableRel r]

/-- Only what the elements seen are related to counts. -/
theorem keepNew_congr (h : ∀ a, IsSeen r seen a ↔ IsSeen r seen' a) :
    keepNew r seen l = keepNew r seen' l := by
  induction l generalizing seen seen' with
  | nil => rfl
  | cons a l ih =>
    have hnext : ∀ b, IsSeen r (seen ++ [a]) b ↔ IsSeen r (seen' ++ [a]) b := by
      intro b
      rw [isSeen_append, isSeen_append, h b]
    rw [keepNew, keepNew, ih h, ih hnext]
    exact if_congr (h a) rfl rfl

/-- What is kept is new to what has been seen, and each element is new to those before it. -/
theorem keepNew_new (l seen : List α) :
    (∀ a ∈ keepNew r seen l, ¬ IsSeen r seen a) ∧
      (keepNew r seen l).Pairwise fun a b => ¬ r a b := by
  induction l generalizing seen with
  | nil => exact ⟨List.forall_mem_nil _, .nil⟩
  | cons a l ih =>
    rw [keepNew]
    split
    · exact ih seen
    · rename_i ha
      rcases ih (seen ++ [a]) with ⟨hnew, hpairwise⟩
      have hnew' : ∀ b ∈ keepNew r (seen ++ [a]) l, ¬ IsSeen r seen b ∧ ¬ r a b := by
        intro b hb
        have h := hnew b hb
        rwa [isSeen_append, not_or] at h
      constructor
      · exact List.forall_mem_cons.mpr ⟨ha, fun b hb => (hnew' b hb).1⟩
      · exact .cons (fun b hb => (hnew' b hb).2) hpairwise

/-- If all elements are new, they are kept. -/
theorem keepNew_eq_self (hl : ∀ a ∈ l, ¬ IsSeen r seen a) (h : l.Pairwise fun a b => ¬ r a b) :
    keepNew r seen l = l := by
  induction l generalizing seen with
  | nil => rfl
  | cons a l ih =>
    rcases List.forall_mem_cons.mp hl with ⟨ha, hl⟩
    rcases List.pairwise_cons.mp h with ⟨hfirst, h⟩
    rw [keepNew, if_neg ha, ih _ h]
    intro b hb
    rw [isSeen_append, not_or]
    exact ⟨hl b hb, hfirst b hb⟩

theorem sublist_keepNew (l seen : List α) : (keepNew r seen l).Sublist l := by
  induction l generalizing seen with
  | nil => exact .refl _
  | cons a l ih =>
    rw [keepNew]
    split
    · exact (ih seen).cons a
    · exact (ih _).cons_cons a

theorem keepNew_keepNew (l : List α) : keepNew r [] (keepNew r [] l) = keepNew r [] l := by
  rcases keepNew_new (r := r) l [] with ⟨hnew, hpairwise⟩
  exact keepNew_eq_self hnew hpairwise

/-! ### Partial equivalences -/

section PartialEquivalence

variable (hr : IsPartialEquivalence r)
include hr

/-- An element that is not kept may count as seen, because what it is related to is seen already. -/
theorem keepNew_cons (a : α) (l seen : List α) :
    keepNew r seen (a :: l) =
      (if IsSeen r seen a then [] else [a]) ++ keepNew r (seen ++ [a]) l := by
  rw [keepNew]
  by_cases ha : IsSeen r seen a
  · rw [if_pos ha, if_pos ha, List.nil_append]
    apply keepNew_congr
    intro b
    rw [isSeen_append]
    exact ⟨.inl, fun h => h.elim id fun hab => (isSeen_iff_of_related hr hab).mp ha⟩
  · rw [if_neg ha, if_neg ha, List.singleton_append]

/-- Behind `before`, the elements are kept that are new in the whole list. -/
theorem exists_places (before l : List α) : ∃ places : List ℕ, places.Pairwise (· < ·) ∧
    (∀ i, i ∈ places ↔ before.length ≤ i ∧ IsNewAt r (before ++ l) i) ∧
    keepNew r before l = places.filterMap ((before ++ l)[·]?) := by
  induction l generalizing before with
  | nil =>
    refine ⟨[], .nil, fun i => ?_, rfl⟩
    refine iff_of_false List.not_mem_nil ?_
    rintro ⟨hi, a, ha, -⟩
    rw [List.append_nil, List.getElem?_eq_none hi] at ha
    cases ha
  | cons a l ih =>
    rcases ih (before ++ [a]) with ⟨places, hsorted, hmem, hkept⟩
    rw [List.append_assoc, List.singleton_append] at hmem hkept
    simp only [List.length_append, List.length_singleton] at hmem
    rw [keepNew_cons hr, hkept]
    by_cases ha : IsSeen r before a
    · -- the place of `a` is not new, so the places behind it are all there are
      refine ⟨places, hsorted, fun i => ?_, by rw [if_pos ha, List.nil_append]⟩
      rw [hmem]
      refine and_congr_left fun hi => ⟨fun h => by omega, fun h => ?_⟩
      refine Nat.lt_of_le_of_ne h fun heq => ?_
      rw [← heq, isNewAt_length] at hi
      exact hi ha
    · -- the place of `a` comes before all others
      refine ⟨before.length :: places, ?_, fun i => ?_, ?_⟩
      · exact .cons (fun i hi => ((hmem i).mp hi).1) hsorted
      · rw [List.mem_cons, hmem]
        constructor
        · rintro (rfl | ⟨hi, hnew⟩)
          · exact ⟨le_rfl, isNewAt_length.mpr ha⟩
          · exact ⟨by omega, hnew⟩
        · rintro ⟨hi, hnew⟩
          rcases Nat.eq_or_lt_of_le hi with heq | hlt
          · exact .inl heq.symm
          · exact .inr ⟨hlt, hnew⟩
      · rw [if_neg ha]
        simp

theorem hasNewElements_keepNew (l : List α) : HasNewElements r l (keepNew r [] l) := by
  rcases exists_places hr [] l with ⟨places, hsorted, hmem, hkept⟩
  refine ⟨places, hsorted, fun i => ?_, hkept⟩
  rw [hmem]
  exact and_iff_right (Nat.zero_le i)

/-- As many elements are kept in any other order.  Two neighbours that change places are both kept,
or one of them is, or none, in the one order as in the other. -/
theorem length_keepNew_perm (h : l'.Perm l) (seen : List α) :
    (keepNew r seen l').length = (keepNew r seen l).length := by
  induction h generalizing seen with
  | nil => rfl
  | cons a _ ih => rw [keepNew_cons hr, keepNew_cons hr, List.length_append, ih,
      List.length_append]
  | swap a b l =>
    have hrest : keepNew r (seen ++ [a] ++ [b]) l = keepNew r (seen ++ [b] ++ [a]) l := by
      apply keepNew_congr
      intro c
      simp only [isSeen_append, or_right_comm]
    have hcomm : r b a ↔ r a b := ⟨hr.symm, hr.symm⟩
    -- what is kept of the rest is the same, so it remains to count which of the two are kept
    simp only [keepNew_cons hr, List.length_append, isSeen_append, hrest, hcomm]
    by_cases hab : r a b
    · by_cases ha : IsSeen r seen a
      · simp [ha, (isSeen_iff_of_related hr hab).mp ha]
      · have hb : ¬ IsSeen r seen b := fun hb => ha ((isSeen_iff_of_related hr hab).mpr hb)
        simp [ha, hb, hab]
    · by_cases ha : IsSeen r seen a <;> by_cases hb : IsSeen r seen b <;> simp [ha, hb, hab]
  | trans _ _ ih₁ ih₂ => rw [ih₁, ih₂]

end PartialEquivalence

end Kept

end NewElements

/-! ## 2. Equal values -/

namespace Atomic

variable {c : Collation} {tz : TimeZone} {v w : Atomic}

/-- Two values are alike if both have a place, as far as they are dates or times, and one key. -/
def Alike (c : Collation) (tz : TimeZone) (v w : Atomic) : Prop :=
  v.isPlaced tz ∧ w.isPlaced tz ∧ v.equalityKey c tz = w.equalityKey c tz

theorem alike_isPartialEquivalence (c : Collation) (tz : TimeZone) :
    IsPartialEquivalence (Alike c tz) where
  symm h := ⟨h.2.1, h.1, h.2.2.symm⟩
  trans h h' := ⟨h.1, h'.2.1, h.2.2.trans h'.2.2⟩

/-- Whether a value is of no floating-point type. -/
def IsExact (v : Atomic) : Prop := v.type ≠ .float ∧ v.type ≠ .double

instance (v : Atomic) : Decidable v.IsExact := inferInstanceAs (Decidable (_ ∧ _))

theorem isPlaced_of_isExact {n : Numeric} (h : (numeric n).IsExact) :
    (numeric n).isPlaced tz = true := by
  cases n with
  | integer i | decimal d => rfl
  | float x => exact absurd rfl h.1
  | double x => exact absurd rfl h.2

theorem isOk_of_isEqual_instants {x y : Result Calendar.LocalTime} {f : Ordering → Bool}
    (h : Comparison.isEqual ((compareInstants x y).map f) = true) : x.isOk ∧ y.isOk := by
  cases hr : (compareInstants x y).map f with
  | error e => rw [hr] at h; cases h
  | ok r => exact isOk_of_compareInstants hr

theorem isOk_of_equal_gregorian {x y : Gregorian}
    (h : (gregorian x).equal (gregorian y) c tz true = true) :
    (x.toUtc tz).isOk ∧ (y.toUtc tz).isOk := by
  change Comparison.isEqual (if x.kind == y.kind then do
      compareEquality .eq (gregorian x) (gregorian y)
        (← compareInstants (x.toUtc tz) (y.toUtc tz)).isEq
    else .error (incomparable .eq (gregorian x) (gregorian y))) = true at h
  split at h
  · cases ho : compareInstants (x.toUtc tz) (y.toUtc tz) with
    | error e => rw [ho] at h; cases h
    | ok o => exact isOk_of_compareInstants (congrArg (Except.map Ordering.isEq) ho)
  · cases h

/-- Values without a place are not equal to any value. -/
theorem isPlaced_of_equal (hv : v.IsExact) (hw : w.IsExact) (h : v.equal w c tz true = true) :
    v.isPlaced tz ∧ w.isPlaced tz := by
  cases v with
  | numeric m =>
    cases w with
    | numeric n => exact ⟨isPlaced_of_isExact hv, isPlaced_of_isExact hw⟩
    | _ => cases h
  | dateTime x =>
    cases w with
    | dateTime y => exact isOk_of_isEqual_instants h
    | _ => cases h
  | date x =>
    cases w with
    | date y => exact isOk_of_isEqual_instants h
    | _ => cases h
  | time x =>
    cases w with
    | time y => exact isOk_of_isEqual_instants h
    | _ => cases h
  | gregorian x =>
    cases w with
    | gregorian y => exact isOk_of_equal_gregorian h
    | _ => cases h
  | _ =>
    cases w with
    | numeric _ | dateTime _ | date _ | time _ | gregorian _ => cases h
    | _ => exact ⟨rfl, rfl⟩

theorem equal_iff_alike (hv : v.IsExact) (hw : w.IsExact) :
    v.equal w c tz true = true ↔ Alike c tz v w := by
  constructor
  · intro h
    rcases isPlaced_of_equal hv hw h with ⟨hv', hw'⟩
    exact ⟨hv', hw', (equal_iff c tz hv' hw').mp h⟩
  · rintro ⟨hv', hw', hkey⟩
    exact (equal_iff c tz hv' hw').mpr hkey

/-! ## 3. Distinct values -/

open Classical in
theorem distinctFrom_eq {seen l : List Atomic} (hseen : ∀ v ∈ seen, v.IsExact)
    (hl : ∀ v ∈ l, v.IsExact) : distinctFrom c tz seen l = keepNew (Alike c tz) seen l := by
  induction l generalizing seen with
  | nil => rfl
  | cons v l ih =>
    rcases List.forall_mem_cons.mp hl with ⟨hv, hl⟩
    have hnext : ∀ w ∈ seen ++ [v], w.IsExact := by
      intro w hw
      rcases List.mem_append.mp hw with hw | hw
      · exact hseen w hw
      · rwa [List.mem_singleton.mp hw]
    have htest : (seen.any fun w => w.equal v c tz true) = true ↔ IsSeen (Alike c tz) seen v := by
      rw [List.any_eq_true]
      exact exists_congr fun w => and_congr_right fun hw => equal_iff_alike (hseen w hw) hv
    rw [distinctFrom, keepNew, ih hseen hl, ih hnext hl]
    exact if_congr htest rfl rfl

end Atomic

namespace Library

variable (call : Call) (named : List Sequence) {c : Collation}

/-- The collation is the default one, or one that a further argument names. -/
theorem distinctValues_eq (hc : call.collationArgument ([] :: named) 1 = .ok c)
    (values : List Atomic) : distinctValues call (values.map Item.atomic :: named) =
      .ok ((Atomic.distinct c call.dynamic.timeZone values).map Item.atomic) := by
  have hc' : call.collationArgument (values.map Item.atomic :: named) 1 = .ok c := hc
  have hvalues : Sequence.atomize (Arguments.get (values.map Item.atomic :: named) 0) = values :=
    Sequence.atomize_map_atomic values
  rw [distinctValues, hc', hvalues]
  rfl

/-- Under each collation and implicit time zone, the function keeps the values that are like none
before them, in their order, so that no two of them are alike.  It leaves what it has kept as it is,
and it keeps as many values in any other order. -/
theorem distinctValues_keepsFirst (hc : call.collationArgument ([] :: named) 1 = .ok c)
    (values : List Atomic) (hvalues : ∀ v ∈ values, v.IsExact) :
    ∃ kept, distinctValues call (values.map Item.atomic :: named) = .ok (kept.map Item.atomic) ∧
      HasNewElements (Atomic.Alike c call.dynamic.timeZone) values kept ∧
      kept.Pairwise (fun v w => ¬ Atomic.Alike c call.dynamic.timeZone v w) ∧
      distinctValues call (kept.map Item.atomic :: named) = .ok (kept.map Item.atomic) ∧
      ∀ others : List Atomic, others.Perm values → ∃ kept' : List Atomic,
        distinctValues call (others.map Item.atomic :: named) = .ok (kept'.map Item.atomic) ∧
          kept'.length = kept.length := by
  classical
  have hlaws := Atomic.alike_isPartialEquivalence c call.dynamic.timeZone
  have hdistinct : ∀ l : List Atomic, (∀ v ∈ l, v.IsExact) →
      Atomic.distinct c call.dynamic.timeZone l = keepNew (Atomic.Alike c _) [] l :=
    fun l hl => Atomic.distinctFrom_eq (List.forall_mem_nil _) hl
  have hkept : ∀ v ∈ keepNew (Atomic.Alike c call.dynamic.timeZone) [] values, v.IsExact :=
    fun v hv => hvalues v ((sublist_keepNew values []).subset hv)
  refine ⟨keepNew (Atomic.Alike c call.dynamic.timeZone) [] values, ?_, ?_, ?_, ?_, ?_⟩
  · rw [distinctValues_eq call named hc, hdistinct values hvalues]
  · exact hasNewElements_keepNew hlaws values
  · exact (keepNew_new values []).2
  · rw [distinctValues_eq call named hc, hdistinct _ hkept, keepNew_keepNew]
  · intro others hperm
    refine ⟨keepNew (Atomic.Alike c call.dynamic.timeZone) [] others, ?_, ?_⟩
    · have hothers : ∀ v ∈ others, v.IsExact := fun v hv => hvalues v (hperm.mem_iff.mp hv)
      rw [distinctValues_eq call named hc, hdistinct others hothers]
    · exact length_keepNew_perm hlaws hperm []

def sampleDistinctCall : Call where
  name := .function "distinct-values"
  static := .initial ⟨[]⟩
  dynamic := .initial ⟨.midnight .epoch, none⟩ .utc
  focus := none
  collation := .codepoint

/-- The first day of all.  Fourteen hours to the east it begins before the time line does. -/
def dayBeforeTime : Atomic := .date ⟨⟨Calendar.minDay, by decide⟩, some ⟨840⟩⟩

/-- A text and a number, each of two types, and twice a day that is not equal to itself. -/
def sampleValues : List Atomic :=
  [.string "a", dayBeforeTime, .integer 1, .untyped "a", .decimal .one, dayBeforeTime]

theorem distinctValues_keepsFirst_sample :
    sampleDistinctCall.collationArgument [[]] 1 = .ok .codepoint ∧
      (∀ v ∈ sampleValues, v.IsExact) ∧
      distinctValues sampleDistinctCall [sampleValues.map Item.atomic] =
        .ok ([.string "a", dayBeforeTime, .integer 1, dayBeforeTime].map Item.atomic) ∧
      ∃ kept : List Atomic,
        distinctValues sampleDistinctCall [sampleValues.reverse.map Item.atomic] =
          .ok (kept.map Item.atomic) ∧ kept.length = 4 := by
  have hexact : ∀ v ∈ sampleValues, v.IsExact := by
    decide
  have hvalue : distinctValues sampleDistinctCall [sampleValues.map Item.atomic] =
      .ok ([.string "a", dayBeforeTime, .integer 1, dayBeforeTime].map Item.atomic) := rfl
  rcases distinctValues_keepsFirst sampleDistinctCall [] (c := .codepoint) rfl sampleValues hexact
    with ⟨kept, hkept, -, -, -, hperm⟩
  have hlength : kept.length = 4 := by
    have hmap := Except.ok.inj (hkept.symm.trans hvalue)
    simpa using congrArg List.length hmap
  rcases hperm _ (List.reverse_perm sampleValues) with ⟨kept', hkept', hcount⟩
  exact ⟨rfl, hexact, hvalue, kept', hkept', hcount.trans hlength⟩

end Library

end XPath
