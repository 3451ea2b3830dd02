import XPath.Proofs.Time.DurationText

/-!
# The grammar of durations

A duration is written as its components in order, each of them at most once, with a `T` in front of
those of the time.  The reader accepts these texts and no others, and it finds the components.
-/

namespace XPath

open XPath.Number XPath.Text

namespace DurationParts

/-! ## 1. Components -/

/-- One or more digits. -/
structure Numeral where
  digits : List Char
  nonempty : digits ≠ []
  isDigits : IsDigits digits

def Numeral.value (n : Numeral) : Nat := digitsValue n.digits

/-- Digits that may have others behind a point. -/
structure SecondsNumeral where
  whole : Numeral
  fraction : Option Numeral

def SecondsNumeral.text (n : SecondsNumeral) : List Char :=
  n.whole.digits ++ match n.fraction with
    | none => []
    | some f => '.' :: f.digits

/-- A component with its numeral.  Only the seconds may have a fraction. -/
inductive Component where
  | counter (c : Counter) (n : Numeral)
  | seconds (n : SecondsNumeral)

/-- The parts with a counter that has been read, even if it is zero. -/
def Counter.put (p : DurationParts) (c : Counter) (n : Nat) : DurationParts :=
  let p := { p with overflowed := p.overflowed || n ≥ limit }
  match c with
  | years => { p with years := n, hasYearMonth := true }
  | months => { p with months := n, hasYearMonth := true }
  | days => { p with days := n, hasDayTime := true }
  | hours => { p with hours := n, hasDayTime := true }
  | minutes => { p with minutes := n, hasDayTime := true }

namespace Component

def numeral : Component → List Char
  | counter _ n => n.digits
  | seconds n => n.text

def designator : Component → Char
  | counter c _ => c.designator
  | seconds _ => 'S'

/-- The place of a component among those of its part. -/
def place : Component → Nat
  | counter c _ => c.place
  | seconds _ => 3

/-- Whether a component stands in front of the `T`. -/
def InDate : Component → Prop
  | counter c _ => c.InDate
  | seconds _ => False

/-- The parts with a component that has been read. -/
def put (p : DurationParts) : Component → DurationParts
  | counter c n => c.put p n.value
  | seconds n => { p with
      seconds := (Decimal.ofLiteral? n.text).getD .zero, hasDayTime := true
      overflowed := p.overflowed || (Decimal.ofLiteral? n.text).isNone }

/-- The text of a component, if it is there. -/
def text : Option Component → List Char
  | none => []
  | some k => k.numeral ++ [k.designator]

/-- The parts with a component, if it is there. -/
def put? (p : DurationParts) : Option Component → DurationParts
  | none => p
  | some k => k.put p

end Component

theorem isNumeral_iff {s : List Char} : isNumeral s = true ↔ ∃ n : SecondsNumeral, s = n.text := by
  unfold isNumeral
  constructor
  · intro h
    split at h
    · simp only [Bool.and_eq_true, Bool.not_eq_true', List.isEmpty_eq_false_iff,
        List.all_eq_true] at h
      exact ⟨⟨⟨s, h.1, h.2⟩, none⟩, (List.append_nil s).symm⟩
    · rename_i a b hsplit
      obtain ⟨rfl, -⟩ := splitFirst?_eq_some hsplit
      simp only [Bool.and_eq_true, Bool.not_eq_true', List.isEmpty_eq_false_iff,
        List.all_eq_true] at h
      exact ⟨⟨⟨a, h.1.1.1, h.1.2⟩, some ⟨b, h.1.1.2, h.2⟩⟩, rfl⟩
  · rintro ⟨⟨⟨w, hw0, hw⟩, fraction⟩, rfl⟩
    have hpoint := hw.not_mem (c := '.') (by decide)
    cases fraction with
    | none =>
      rw [SecondsNumeral.text, List.append_nil, splitFirst?_eq_none hpoint]
      simp [hw0, hw.all]
    | some f =>
      rw [SecondsNumeral.text, splitFirst?_append hpoint]
      simp [hw0, hw.all, f.nonempty, f.isDigits.all]

namespace SecondsNumeral

theorem writtenWith_text (n : SecondsNumeral) : WrittenWith ['.'] n.text := by
  obtain ⟨w, fraction⟩ := n
  cases fraction with
  | none => simpa [text] using w.isDigits.writtenWith
  | some f => simp [text, w.isDigits.writtenWith, f.isDigits.writtenWith]

theorem contains_text (n : SecondsNumeral) : n.text.contains '.' = n.fraction.isSome := by
  obtain ⟨w, fraction⟩ := n
  have hpoint := w.isDigits.not_mem (c := '.') (by decide)
  cases fraction with
  | none => simpa [text] using hpoint
  | some f => simp [text]

theorem text_of_not_contains {n : SecondsNumeral} (h : n.text.contains '.' = false) :
    n.text = n.whole.digits := by
  rw [contains_text, Option.isSome_eq_false_iff, Option.isNone_iff_eq_none] at h
  rw [text, h, List.append_nil]

end SecondsNumeral

variable {fuel rank : Nat} {p q : DurationParts} {s r : List Char} {c : Char}

/-! ## 2. One step -/

/-- One step of a reader: a component of its part that comes behind those that have been read. -/
def Step (part : Component → Prop) (read : List Char → Nat → DurationParts → Option DurationParts)
    (s : List Char) (rank : Nat) (p q : DurationParts) : Prop :=
  ∃ (k : Component) (r : List Char), part k ∧ rank < k.place ∧
    s = k.numeral ++ k.designator :: r ∧ read r k.place (k.put p) = some q

theorem readDate_step : readDate (fuel + 1) (c :: s) rank p = some q ↔
    Step Component.InDate (readDate fuel) (c :: s) rank p q := by
  constructor
  · intro h
    have hsplit := (List.prefix_iff_eq_append.mp (List.takeWhile_prefix isDigit (l := c :: s))).symm
    have hdigits : IsDigits ((c :: s).takeWhile isDigit) :=
      List.all_eq_true.mp List.all_takeWhile
    simp only [readDate, ge_iff_le] at h
    split at h
    · cases h
    · rename_i hne
      have hne : (c :: s).takeWhile isDigit ≠ [] := by simpa using hne
      have hstep {d : Counter} {r : List Char} (hd : d.InDate)
          (hdrop : (c :: s).drop ((c :: s).takeWhile isDigit).length = d.designator :: r)
          (hr : (if d.place ≤ rank then none else readDate fuel r d.place
            (d.put p (digitsValue ((c :: s).takeWhile isDigit)))) = some q) :
          Step Component.InDate (readDate fuel) (c :: s) rank p q := by
        obtain ⟨hrank, hread⟩ := Option.ite_none_left_eq_some.mp hr
        rw [hdrop] at hsplit
        exact ⟨.counter d ⟨_, hne, hdigits⟩, r, hd, Nat.not_le.mp hrank, hsplit, hread⟩
      split at h
      · exact hstep (d := .years) trivial ‹_› h
      · exact hstep (d := .months) trivial ‹_› h
      · exact hstep (d := .days) trivial ‹_› h
      · cases h
  · rintro ⟨k, r, hk, hrank, hs, hread⟩
    rw [hs]
    cases k with
    | seconds => exact hk.elim
    | counter c n =>
      rw [Component.numeral, Component.designator]
      cases c with
      | hours | minutes => exact hk.elim
      | years | months | days =>
        rw [Counter.designator, readDate_digits n.isDigits n.nonempty (by decide)]
        exact (if_neg (Nat.not_le.mpr hrank)).trans hread

theorem readTime_step : readTime (fuel + 1) (c :: s) rank p = some q ↔
    Step (fun k => ¬ k.InDate) (readTime fuel) (c :: s) rank p q := by
  constructor
  · intro h
    have hsplit := (List.prefix_iff_eq_append.mp
      (List.takeWhile_prefix (fun c => isDigit c || c == '.') (l := c :: s))).symm
    simp only [readTime, ge_iff_le] at h
    split at h
    · cases h
    · rename_i hnumeral
      obtain ⟨n, hn⟩ := isNumeral_iff.mp (by simpa using hnumeral)
      rw [hn] at h hsplit
      have hstep {d : Counter} {r : List Char} (hd : ¬ d.InDate)
          (hdrop : (c :: s).drop n.text.length = d.designator :: r)
          (hr : (if (decide (d.place ≤ rank) || n.text.contains '.') = true then none
            else readTime fuel r d.place (d.put p (digitsValue n.text))) = some q) :
          Step (fun k => ¬ k.InDate) (readTime fuel) (c :: s) rank p q := by
        obtain ⟨hguard, hread⟩ := Option.ite_none_left_eq_some.mp hr
        simp only [Bool.or_eq_true, decide_eq_true_eq, not_or, Bool.not_eq_true] at hguard
        rw [hdrop] at hsplit
        rw [SecondsNumeral.text_of_not_contains hguard.2] at hsplit hread
        exact ⟨.counter d n.whole, r, hd, Nat.not_le.mp hguard.1, hsplit, hread⟩
      split at h
      · exact hstep (d := .hours) id ‹_› h
      · exact hstep (d := .minutes) id ‹_› h
      · rename_i r hdrop
        obtain ⟨hrank, hread⟩ := Option.ite_none_left_eq_some.mp h
        rw [hdrop] at hsplit
        exact ⟨.seconds n, r, id, Nat.not_le.mp hrank, hsplit, hread⟩
      · cases h
  · rintro ⟨k, r, hk, hrank, hs, hread⟩
    rw [hs]
    cases k with
    | counter c n =>
      have hnumeral : isNumeral n.digits = true :=
        isNumeral_iff.mpr ⟨⟨n, none⟩, (List.append_nil _).symm⟩
      have hwhole : n.digits.contains '.' = false := by
        simpa using n.isDigits.not_mem (c := '.') (by decide)
      rw [Component.numeral, Component.designator]
      cases c with
      | years | months | days => exact absurd trivial hk
      | hours | minutes =>
        rw [Counter.designator, readTime_numeral n.isDigits.writtenWith hnumeral (by decide)]
        simp only [hwhole, Bool.or_false, decide_eq_true_eq]
        exact (if_neg (Nat.not_le.mpr hrank)).trans hread
    | seconds n =>
      rw [Component.numeral, Component.designator,
        readTime_numeral n.writtenWith_text (isNumeral_iff.mpr ⟨n, rfl⟩) (by decide)]
      exact (if_neg (Nat.not_le.mpr hrank)).trans hread

/-! ## 3. One part -/

/-- A run of a reader through the components of a part, in the order of their places. -/
inductive Run (part : Component → Prop) :
    List Char → Nat → DurationParts → DurationParts → Prop where
  | done (rank : Nat) (p : DurationParts) : Run part [] rank p p
  | step {r : List Char} {rank : Nat} {p q : DurationParts} (k : Component) (hk : part k)
      (hrank : rank < k.place) (rest : Run part r k.place (k.put p) q) :
      Run part (k.numeral ++ k.designator :: r) rank p q

variable {part : Component → Prop}

theorem run_nil_iff : Run part [] rank p q ↔ p = q := by
  constructor
  · generalize hs : ([] : List Char) = s
    rintro (_ | ⟨k, hk, hrank, rest⟩)
    · rfl
    · simp at hs
  · rintro rfl
    exact .done rank p

/-- A reader with enough steps runs through its whole text, since each step takes a character. -/
theorem read_iff_run {read : Nat → List Char → Nat → DurationParts → Option DurationParts}
    (hdone : ∀ fuel rank p, read fuel [] rank p = some p)
    (hstep : ∀ {fuel c s rank p q}, read (fuel + 1) (c :: s) rank p = some q ↔
      Step part (read fuel) (c :: s) rank p q)
    (hfuel : s.length ≤ fuel) : read fuel s rank p = some q ↔ Run part s rank p q := by
  induction fuel generalizing s rank p with
  | zero =>
    obtain rfl := List.length_eq_zero_iff.mp (Nat.le_zero.mp hfuel)
    rw [hdone, Option.some_inj, run_nil_iff]
  | succ fuel ih =>
    cases s with
    | nil => rw [hdone, Option.some_inj, run_nil_iff]
    | cons c s =>
      rw [hstep]
      constructor
      · rintro ⟨k, r, hk, hrank, hs, hread⟩
        have hlen := congrArg List.length hs
        simp only [List.length_append, List.length_cons] at hlen hfuel
        rw [hs]
        exact .step k hk hrank ((ih (by omega)).mp hread)
      · generalize hs : c :: s = l
        rintro (_ | @⟨r, _, _, _, k, hk, hrank, rest⟩)
        · cases hs
        · have hlen := congrArg List.length hs
          simp only [List.length_append, List.length_cons] at hlen hfuel
          exact ⟨k, r, hk, hrank, rfl, (ih (by omega)).mpr rest⟩

theorem Run.mono {rank' : Nat} (h : Run part s rank p q) (hrank : rank' ≤ rank) :
    Run part s rank' p q := by
  cases h with
  | done => exact .done rank' p
  | step k hk hlt rest => exact .step k hk (lt_of_le_of_lt hrank hlt) rest

/-- A run finds the components of the next place, if there is one, and goes on behind it. -/
theorem run_iff_next {α : Type} {make : α → Component}
    (hmake : ∀ k, part k ∧ k.place = rank + 1 ↔ ∃ a, k = make a) :
    Run part s rank p q ↔ ∃ (a : Option α) (r : List Char), s = Component.text (a.map make) ++ r ∧
      Run part r (rank + 1) (Component.put? p (a.map make)) q := by
  constructor
  · intro h
    cases h with
    | done => exact ⟨none, [], rfl, .done _ _⟩
    | @step r _ _ _ k hk hlt rest =>
      -- the first component of the run stands in the next place, or it has left that place out
      obtain heq | hlt := Nat.eq_or_lt_of_le (Nat.succ_le_of_lt hlt)
      · obtain ⟨a, rfl⟩ := (hmake k).mp ⟨hk, heq.symm⟩
        refine ⟨some a, r, by simp [Component.text], ?_⟩
        rw [Nat.succ_eq_add_one] at heq
        rw [heq]
        exact rest
      · exact ⟨none, _, rfl, .step k hk hlt rest⟩
  · rintro ⟨a, r, rfl, hrun⟩
    cases a with
    | none => exact hrun.mono (Nat.le_succ rank)
    | some a =>
      obtain ⟨hk, hplace⟩ := (hmake (make a)).mpr ⟨a, rfl⟩
      rw [← hplace] at hrun
      have hstep := Run.step (make a) hk (by omega : rank < (make a).place) hrun
      simpa [Component.text] using hstep

theorem Component.place_le (k : Component) : k.place ≤ 3 := by
  rcases k with ⟨c, n⟩ | n
  · cases c <;> simp [place, Counter.place]
  · exact le_rfl

theorem run_iff_done : Run part s 3 p q ↔ s = [] ∧ q = p := by
  constructor
  · intro h
    cases h with
    | done => exact ⟨rfl, rfl⟩
    | step k hk hlt rest => exact absurd k.place_le (Nat.not_le.mpr hlt)
  · rintro ⟨rfl, rfl⟩
    exact .done 3 q

variable {α β γ : Type} {first : α → Component} {second : β → Component} {third : γ → Component}

/-- The text of three components, any of which may be left out. -/
def partText (a : Option α) (b : Option β) (c : Option γ) (first : α → Component)
    (second : β → Component) (third : γ → Component) : List Char :=
  Component.text (a.map first) ++ (Component.text (b.map second) ++ Component.text (c.map third))

/-- The parts with three components, any of which may be left out. -/
def putPart (p : DurationParts) (a : Option α) (b : Option β) (c : Option γ)
    (first : α → Component) (second : β → Component) (third : γ → Component) : DurationParts :=
  Component.put? (Component.put? (Component.put? p (a.map first)) (b.map second)) (c.map third)

theorem run_iff (h1 : ∀ k, part k ∧ k.place = 1 ↔ ∃ a, k = first a)
    (h2 : ∀ k, part k ∧ k.place = 2 ↔ ∃ b, k = second b)
    (h3 : ∀ k, part k ∧ k.place = 3 ↔ ∃ c, k = third c) :
    Run part s 0 p q ↔ ∃ a b c, s = partText a b c first second third ∧
      q = putPart p a b c first second third := by
  simp only [run_iff_next h1, run_iff_next h2, run_iff_next h3, Nat.reduceAdd, run_iff_done,
    partText, putPart]
  constructor
  · rintro ⟨a, _, rfl, b, _, rfl, c, _, rfl, rfl, rfl⟩
    exact ⟨a, b, c, by rw [List.append_nil], rfl⟩
  · rintro ⟨a, b, c, rfl, rfl⟩
    exact ⟨a, _, rfl, b, _, rfl, c, [], by rw [List.append_nil], rfl, rfl⟩

/-- The text of years, months and days. -/
def textOfDate (y m d : Option Numeral) : List Char :=
  partText y m d (.counter .years) (.counter .months) (.counter .days)

def putDate (p : DurationParts) (y m d : Option Numeral) : DurationParts :=
  putPart p y m d (.counter .years) (.counter .months) (.counter .days)

/-- The text of hours, minutes and seconds. -/
def textOfTime (h m : Option Numeral) (x : Option SecondsNumeral) : List Char :=
  partText h m x (.counter .hours) (.counter .minutes) .seconds

def putTime (p : DurationParts) (h m : Option Numeral) (x : Option SecondsNumeral) :
    DurationParts :=
  putPart p h m x (.counter .hours) (.counter .minutes) .seconds

theorem readDate_iff (hfuel : s.length ≤ fuel) : readDate fuel s 0 p = some q ↔
    ∃ y m d : Option Numeral, s = textOfDate y m d ∧
      q = putDate p y m d := by
  rw [read_iff_run (fun fuel _ _ => by cases fuel <;> rfl) readDate_step hfuel]
  unfold textOfDate putDate
  apply run_iff
  all_goals
    rintro (⟨c, n⟩ | n)
    · cases c <;> simp [Component.InDate, Component.place, Counter.InDate, Counter.place]
    · simp [Component.InDate, Component.place]

theorem readTime_iff (hfuel : s.length ≤ fuel) : readTime fuel s 0 p = some q ↔
    ∃ (h m : Option Numeral) (x : Option SecondsNumeral),
      s = textOfTime h m x ∧
      q = putTime p h m x := by
  rw [read_iff_run (fun fuel _ _ => by cases fuel <;> rfl) readTime_step hfuel]
  unfold textOfTime putTime
  apply run_iff
  all_goals
    rintro (⟨c, n⟩ | n)
    · cases c <;> simp [Component.InDate, Component.place, Counter.InDate, Counter.place]
    · simp [Component.InDate, Component.place]

theorem putDate_eq {y m d : Option Numeral} : putDate p y m d = { p with
    years := (y.map Numeral.value).getD p.years
    months := (m.map Numeral.value).getD p.months
    days := (d.map Numeral.value).getD p.days
    hasYearMonth := p.hasYearMonth || y.isSome || m.isSome
    hasDayTime := p.hasDayTime || d.isSome
    overflowed := p.overflowed || y.any (·.value ≥ limit) || m.any (·.value ≥ limit) ||
      d.any (·.value ≥ limit) } := by
  cases y <;> cases m <;> cases d <;>
    simp [putDate, putPart, Component.put?, Component.put, Counter.put]

theorem putTime_eq {h m : Option Numeral} {x : Option SecondsNumeral} :
    putTime p h m x = { p with
      hours := (h.map Numeral.value).getD p.hours
      minutes := (m.map Numeral.value).getD p.minutes
      seconds := (x.map fun n => (Decimal.ofLiteral? n.text).getD .zero).getD p.seconds
      hasDayTime := p.hasDayTime || h.isSome || m.isSome || x.isSome
      overflowed := p.overflowed || h.any (·.value ≥ limit) || m.any (·.value ≥ limit) ||
        x.any fun n => (Decimal.ofLiteral? n.text).isNone } := by
  cases h <;> cases m <;> cases x <;>
    simp [putTime, putPart, Component.put?, Component.put, Counter.put]

/-! ## 4. The whole text -/

/-- The time of a duration: at least one of hours, minutes and seconds. -/
structure TimeForm where
  hours : Option Numeral
  minutes : Option Numeral
  seconds : Option SecondsNumeral
  nonempty : hours.isSome ∨ minutes.isSome ∨ seconds.isSome

/-- A duration as it is written, with at least one component. -/
structure Form where
  negative : Bool
  years : Option Numeral
  months : Option Numeral
  days : Option Numeral
  time : Option TimeForm
  nonempty : years.isSome ∨ months.isSome ∨ days.isSome ∨ time.isSome

def TimeForm.text (t : TimeForm) : List Char :=
  textOfTime t.hours t.minutes t.seconds

namespace Form

variable (f : Form)

def date : List Char := textOfDate f.years f.months f.days

/-- The components, with a `T` in front of those of the time. -/
def body : List Char :=
  f.date ++ match f.time with
    | none => []
    | some t => 'T' :: t.text

/-- The text `-?P(nY)?(nM)?(nD)?(T(nH)?(nM)?(n(.n)?S)?)?`. -/
def text : List Char := lead f.negative ++ f.body

/-- The parts that the components give. -/
def parts : DurationParts :=
  let p := putDate { negative := f.negative } f.years f.months f.days
  match f.time with
  | none => p
  | some t => putTime p t.hours t.minutes t.seconds

theorem hasYearMonth_parts : f.parts.hasYearMonth = (f.years.isSome || f.months.isSome) := by
  unfold parts
  cases f.time <;> simp [putDate_eq, putTime_eq]

theorem hasDayTime_parts : f.parts.hasDayTime = (f.days.isSome || f.time.isSome) := by
  unfold parts
  cases f.time with
  | none => simp [putDate_eq]
  | some t =>
    have ht := t.nonempty
    simp only [← Bool.or_eq_true] at ht
    simp [putDate_eq, putTime_eq, Bool.or_assoc, ht]

theorem hasComponent_parts : (f.parts.hasYearMonth || f.parts.hasDayTime) = true := by
  have h := f.nonempty
  simp only [← Bool.or_eq_true] at h
  rw [hasYearMonth_parts, hasDayTime_parts, Bool.or_assoc]
  exact h

end Form

theorem Component.text_eq_nil {α : Type} {a : Option α} {make : α → Component} :
    Component.text (a.map make) = [] ↔ a = none := by
  cases a <;> simp [text]

theorem TimeForm.text_ne_nil (t : TimeForm) : t.text ≠ [] := by
  intro hnil
  simp only [text, textOfTime, partText, List.append_eq_nil_iff, Component.text_eq_nil] at hnil
  simpa [hnil] using t.nonempty

theorem Form.writtenWith_date (f : Form) : WrittenWith ['Y', 'M', 'D'] f.date := by
  have hcomponent (a : Option Numeral) {make : Numeral → Component}
      (h : ∀ n, (make n).numeral = n.digits ∧ (make n).designator ∈ ['Y', 'M', 'D']) :
      WrittenWith ['Y', 'M', 'D'] (Component.text (a.map make)) := by
    cases a with
    | none => exact writtenWith_nil
    | some n =>
      rw [Option.map_some, Component.text, (h n).1, writtenWith_append, writtenWith_cons]
      exact ⟨n.isDigits.writtenWith, .inr (h n).2, writtenWith_nil⟩
  rw [date, textOfDate, partText, writtenWith_append, writtenWith_append]
  exact ⟨hcomponent _ fun _ => ⟨rfl, .head _⟩, hcomponent _ fun _ => ⟨rfl, .tail _ (.head _)⟩,
    hcomponent _ fun _ => ⟨rfl, .tail _ (.tail _ (.head _))⟩⟩

theorem length_le_behind (a : List Char) (x : Char) (t : List Char) :
    t.length ≤ (a ++ x :: t).length := by
  rw [List.length_append, List.length_cons]
  omega

variable {negative : Bool}

/-- What is read behind the designator `P` is the body of a form. -/
theorem readBehind_iff : readBehind negative r = some q ↔
    ∃ f : Form, f.negative = negative ∧ r = f.body ∧ q = f.parts := by
  constructor
  · intro h
    -- the first `T` ends the date, whose components have none
    by_cases hT : 'T' ∈ r
    · obtain ⟨a, t, rfl, ha⟩ := List.eq_append_cons_of_mem hT
      cases t with
      | nil => simp [readBehind, splitFirst?_append ha] at h
      | cons c t =>
        rw [readBehind_time ha, Option.filter_eq_some_iff] at h
        obtain ⟨p, hdate, htime⟩ := Option.bind_eq_some_iff.mp h.1
        obtain ⟨y, mo, d, rfl, rfl⟩ := (readDate_iff (by simp)).mp hdate
        obtain ⟨ho, mi, x, htext, rfl⟩ := (readTime_iff (length_le_behind _ _ _)).mp htime
        have hsome : ho.isSome ∨ mi.isSome ∨ x.isSome := by
          by_contra hnone
          simp only [not_or, Bool.not_eq_true, Option.isSome_eq_false_iff,
            Option.isNone_iff_eq_none] at hnone
          simp [hnone, textOfTime, partText, Component.text] at htext
        refine ⟨⟨negative, y, mo, d, some ⟨ho, mi, x, hsome⟩, by simp⟩, rfl, ?_, rfl⟩
        rw [htext]
        rfl
    · rw [readBehind_date hT, Option.filter_eq_some_iff] at h
      obtain ⟨hdate, hcomponent⟩ := h
      obtain ⟨y, mo, d, rfl, rfl⟩ := (readDate_iff le_rfl).mp hdate
      have hsome : y.isSome ∨ mo.isSome ∨ d.isSome ∨ (none : Option TimeForm).isSome := by
        simpa [putDate_eq, or_assoc] using hcomponent
      exact ⟨⟨negative, y, mo, d, none, hsome⟩, rfl, (List.append_nil _).symm, rfl⟩
  · rintro ⟨f, rfl, rfl, rfl⟩
    have hT := f.writtenWith_date.not_mem (c := 'T') (by decide)
    have hcomponent := f.hasComponent_parts
    cases ht : f.time with
    | none =>
      simp only [Form.body, Form.parts, ht] at hcomponent ⊢
      rw [List.append_nil, readBehind_date hT]
      exact Option.filter_eq_some_iff.mpr
        ⟨(readDate_iff le_rfl).mpr ⟨_, _, _, rfl, rfl⟩, hcomponent⟩
    | some t =>
      obtain ⟨c, l, hl⟩ := List.exists_cons_of_ne_nil t.text_ne_nil
      simp only [Form.body, Form.parts, ht] at hcomponent ⊢
      rw [hl, readBehind_time hT]
      have htime := (readTime_iff (p := putDate { negative := f.negative } f.years f.months f.days)
        (length_le_behind f.date 'T' (c :: l))).mpr
          ⟨t.hours, t.minutes, t.seconds, hl.symm, rfl⟩
      exact Option.filter_eq_some_iff.mpr ⟨Option.bind_eq_some_iff.mpr ⟨_,
        (readDate_iff (by simp [Form.date])).mpr ⟨_, _, _, rfl, rfl⟩, htime⟩, hcomponent⟩

theorem exists_lead {lexical : String} (h : parse? lexical = some p) :
    ∃ negative r, trim lexical.toList = lead negative ++ r := by
  unfold parse? at h
  dsimp only at h
  split at h
  · rename_i r hr
    split at hr
    · rename_i s hs
      obtain rfl : s = 'P' :: r := hr
      exact ⟨true, r, hs⟩
    · exact ⟨false, r, hr⟩
  · cases h

/-- **The grammar of durations.**  The reader accepts just the texts of forms, between white space,
and gives their components. -/
theorem parse?_eq_some_iff {lexical : String} : parse? lexical = some p ↔
    ∃ f : Form, trim lexical.toList = f.text ∧ p = f.parts := by
  constructor
  · intro h
    obtain ⟨negative, r, hlead⟩ := exists_lead h
    rw [parse?_lead hlead] at h
    obtain ⟨f, rfl, rfl, rfl⟩ := readBehind_iff.mp h
    exact ⟨f, hlead, rfl⟩
  · rintro ⟨f, htext, rfl⟩
    rw [parse?_lead htext]
    exact readBehind_iff.mpr ⟨f, rfl, rfl, rfl⟩

end DurationParts

end XPath
