import XPath.Proofs.Time.Counts

/-!
# Reading durations

The reader of durations, applied to the components that the text of a duration is made of.  It finds
each of them, whichever are left out, and it accepts nothing with a sign behind the designator `P`.
-/

namespace XPath

open XPath.Number XPath.Text

namespace DurationParts

/-! ## 1. One component -/

/-- A component of a duration, which is left out if it is zero. -/
def component (n : Nat) (designator : Char) : List Char :=
  if n = 0 then [] else Nat.toDigits 10 n ++ [designator]

variable {negative : Bool} {fuel rank n : Nat} {p : DurationParts} {x : Char} {r : List Char}

/-- The components that are whole numbers. -/
inductive Counter where
  | years | months | days | hours | minutes

namespace Counter

/-- The letter behind a component. -/
def designator : Counter → Char
  | years => 'Y'
  | months => 'M'
  | days => 'D'
  | hours => 'H'
  | minutes => 'M'

/-- The place of a component among those of its part. -/
def place : Counter → Nat
  | years | hours => 1
  | months | minutes => 2
  | days => 3

/-- Whether a component stands in the date part. -/
def InDate : Counter → Prop
  | years | months | days => True
  | hours | minutes => False

/-- The number of a component. -/
def get : Counter → DurationParts → Nat
  | years => DurationParts.years
  | months => DurationParts.months
  | days => DurationParts.days
  | hours => DurationParts.hours
  | minutes => DurationParts.minutes

/-- The parts with another number of a component. -/
def set (c : Counter) (n : Nat) (p : DurationParts) : DurationParts :=
  let p := { p with overflowed := p.overflowed || n ≥ limit }
  match c with
  | years => { p with years := n, hasYearMonth := p.hasYearMonth || n != 0 }
  | months => { p with months := n, hasYearMonth := p.hasYearMonth || n != 0 }
  | days => { p with days := n, hasDayTime := p.hasDayTime || n != 0 }
  | hours => { p with hours := n, hasDayTime := p.hasDayTime || n != 0 }
  | minutes => { p with minutes := n, hasDayTime := p.hasDayTime || n != 0 }

theorem set_zero {c : Counter} (h : c.get p = 0) : c.set 0 p = p := by
  cases p
  cases c <;> simp_all [get, set, limit]

end Counter

/-- Reading a component that may be left out, given what reading one that is there does.  Each one
takes at least one of the steps that the length of the text allows. -/
theorem read_component {read : Nat → List Char → Nat → DurationParts → Option DurationParts}
    {k : Nat} {set : Nat → DurationParts → DurationParts}
    (hstep : ∀ fuel n r rank p, n ≠ 0 → rank < k →
      read (fuel + 1) (Nat.toDigits 10 n ++ x :: r) rank p = read fuel r k (set n p))
    (hp : set 0 p = p) (hrank : rank < k) (hfuel : (component n x ++ r).length ≤ fuel) :
    ∃ fuel' rank', r.length ≤ fuel' ∧ rank' ≤ k ∧
      read fuel (component n x ++ r) rank p = read fuel' r rank' (set n p) := by
  by_cases hn : n = 0
  · subst hn
    exact ⟨fuel, rank, hfuel, hrank.le, by rw [hp]; rfl⟩
  · have hcomponent : component n x ++ r = Nat.toDigits 10 n ++ x :: r := by
      rw [component, if_neg hn, List.append_assoc, List.singleton_append]
    rw [hcomponent, List.length_append, List.length_cons] at hfuel
    obtain ⟨fuel, rfl⟩ : ∃ f, fuel = f + 1 := ⟨fuel - 1, by omega⟩
    exact ⟨fuel, k, by omega, le_rfl, by rw [hcomponent, hstep fuel n r rank p hn hrank]⟩

/-! ## 2. The date part -/

theorem readDate_digits {s : List Char} (hs : IsDigits s) (hs0 : s ≠ []) (hx : isDigit x = false) :
    readDate (fuel + 1) (s ++ x :: r) rank p =
      match x :: r with
      | 'Y' :: r =>
        if rank ≥ 1 then none
        else readDate fuel r 1 { p with
          years := digitsValue s, hasYearMonth := true
          overflowed := p.overflowed || digitsValue s ≥ limit }
      | 'M' :: r =>
        if rank ≥ 2 then none
        else readDate fuel r 2 { p with
          months := digitsValue s, hasYearMonth := true
          overflowed := p.overflowed || digitsValue s ≥ limit }
      | 'D' :: r =>
        if rank ≥ 3 then none
        else readDate fuel r 3 { p with
          days := digitsValue s, hasDayTime := true
          overflowed := p.overflowed || digitsValue s ≥ limit }
      | _ => none := by
  have htake : (s ++ x :: r).takeWhile isDigit = s := hs.takeWhile_append (by simpa using hx)
  have hdrop : (s ++ x :: r).drop s.length = x :: r := List.drop_left
  obtain ⟨c, l, rfl⟩ := List.exists_cons_of_ne_nil hs0
  rw [List.cons_append] at htake hdrop ⊢
  have hread := readDate.eq_def (fuel + 1) (c :: (l ++ x :: r)) rank p
  simp only [htake, hdrop, List.isEmpty_cons, Bool.false_eq_true, if_false] at hread
  exact hread

theorem readDate_counter {c : Counter} (hc : c.InDate) (hn : n ≠ 0) (hrank : rank < c.place) :
    readDate (fuel + 1) (Nat.toDigits 10 n ++ c.designator :: r) rank p =
      readDate fuel r c.place (c.set n p) := by
  cases c with
  | hours => exact hc.elim
  | minutes => exact hc.elim
  | _ =>
    rw [Counter.designator,
      readDate_digits (isDigits_toDigits n) (toDigits_ne_nil n) (by decide)]
    simp only [Counter.set, bne_iff_ne.mpr hn, Bool.or_true, digitsValue_toDigits]
    exact if_neg (Nat.not_le.mpr hrank)

/-- The text of the years, months and days of a duration. -/
def dateText (years months days : Nat) : List Char :=
  component years 'Y' ++ (component months 'M' ++ (component days 'D' ++ []))

theorem readDate_dateText {y m d : Nat} (hfuel : (dateText y m d).length ≤ fuel) :
    readDate fuel (dateText y m d) 0 { negative } =
      some (Counter.days.set d (Counter.months.set m (Counter.years.set y { negative }))) := by
  obtain ⟨fuel, rank, hfuel, hrank, hyears⟩ := read_component (x := 'Y')
    (fun _ _ _ _ _ => readDate_counter (c := .years) trivial)
    (Counter.set_zero (p := { negative }) rfl) Nat.zero_lt_one hfuel
  obtain ⟨fuel, rank, hfuel, hrank, hmonths⟩ := read_component (x := 'M')
    (fun _ _ _ _ _ => readDate_counter (c := .months) trivial)
    (Counter.set_zero (p := Counter.years.set y { negative }) rfl) (Nat.lt_succ_of_le hrank) hfuel
  obtain ⟨fuel, rank, hfuel, hrank, hdays⟩ := read_component (x := 'D')
    (fun _ _ _ _ _ => readDate_counter (c := .days) trivial)
    (Counter.set_zero (p := Counter.months.set m (Counter.years.set y { negative })) rfl)
    (Nat.lt_succ_of_le hrank) hfuel
  rw [dateText, hyears, hmonths, hdays, readDate]

/-- There is no sign in a text if there is none in what the reader leaves of it. -/
theorem not_mem_of_drop {s : List Char} {take : Char → Bool} (htake : take '-' = false)
    (hs : s.drop (s.takeWhile take).length = x :: r) (hx : '-' ≠ x) (hr : '-' ∉ r) : '-' ∉ s := by
  have hsplit := List.prefix_iff_eq_append.mp (List.takeWhile_prefix take (l := s))
  rw [hs] at hsplit
  rw [← hsplit, List.mem_append, List.mem_cons, not_or, not_or]
  refine ⟨?_, hx, hr⟩
  intro hm
  rw [List.all_eq_true.mp List.all_takeWhile _ hm] at htake
  contradiction

/-- What is read has no sign, and the seconds are left as they are. -/
theorem readDate_run {s : List Char} {q : DurationParts}
    (h : readDate fuel s rank p = some q) : '-' ∉ s ∧ q.seconds = p.seconds := by
  -- on the number of steps: each one takes digits and a designator, and changes no seconds
  induction fuel generalizing s rank p with
  | zero =>
    cases s with
    | nil => exact ⟨List.not_mem_nil, by rw [← Option.some.inj h]⟩
    | cons c s => cases h
  | succ fuel ih =>
    cases s with
    | nil => exact ⟨List.not_mem_nil, by rw [← Option.some.inj h]⟩
    | cons c s =>
      have hstep : ∀ {x r rank p'}, (c :: s).drop ((c :: s).takeWhile isDigit).length = x :: r →
          '-' ≠ x → readDate fuel r rank p' = some q → p'.seconds = p.seconds →
            '-' ∉ c :: s ∧ q.seconds = p.seconds := by
        intro x r rank p' hdrop hx hr hp
        obtain ⟨hsign, hseconds⟩ := ih hr
        exact ⟨not_mem_of_drop (by decide) hdrop hx hsign, hseconds.trans hp⟩
      simp only [readDate, ge_iff_le] at h
      split at h
      · cases h
      · split at h
        · rename_i hdrop
          exact hstep hdrop (by decide) (Option.ite_none_left_eq_some.mp h).2 rfl
        · rename_i hdrop
          exact hstep hdrop (by decide) (Option.ite_none_left_eq_some.mp h).2 rfl
        · rename_i hdrop
          exact hstep hdrop (by decide) (Option.ite_none_left_eq_some.mp h).2 rfl
        · cases h

/-! ## 3. The time part -/

/-- The parts with a number of seconds. -/
def withSeconds (seconds : Decimal) (p : DurationParts) : DurationParts :=
  { p with seconds, hasDayTime := p.hasDayTime || !seconds.isZero }

theorem withSeconds_zero (h : p.seconds = .zero) : withSeconds .zero p = p := by
  cases p
  simp_all [withSeconds, Decimal.isZero, Decimal.zero]

theorem takeWhile_numeral {s : List Char} (hs : WrittenWith ['.'] s)
    (hx : isDigit x = false ∧ x ≠ '.') :
    (s ++ x :: r).takeWhile (fun c => isDigit c || c == '.') = s := by
  rw [List.takeWhile_append_of_pos]
  · simp [hx]
  · intro c hc
    simpa using hs c hc

theorem readTime_numeral {s : List Char} (hs : WrittenWith ['.'] s) (hnumeral : isNumeral s = true)
    (hx : isDigit x = false ∧ x ≠ '.') :
    readTime (fuel + 1) (s ++ x :: r) rank p =
      match x :: r with
      | 'H' :: r =>
        if rank ≥ 1 || s.contains '.' then none
        else readTime fuel r 1 { p with
          hours := digitsValue s, hasDayTime := true
          overflowed := p.overflowed || digitsValue s ≥ limit }
      | 'M' :: r =>
        if rank ≥ 2 || s.contains '.' then none
        else readTime fuel r 2 { p with
          minutes := digitsValue s, hasDayTime := true
          overflowed := p.overflowed || digitsValue s ≥ limit }
      | 'S' :: r =>
        if rank ≥ 3 then none
        else readTime fuel r 3 { p with
          seconds := (Decimal.ofLiteral? s).getD .zero, hasDayTime := true
          overflowed := p.overflowed || (Decimal.ofLiteral? s).isNone }
      | _ => none := by
  have htake := takeWhile_numeral (r := r) hs hx
  have hdrop : (s ++ x :: r).drop s.length = x :: r := List.drop_left
  obtain ⟨c, l, hl⟩ := List.exists_cons_of_ne_nil (l := s) (by rintro rfl; cases hnumeral)
  -- the reader goes by cases of the text, whose first character is in the numeral
  generalize s ++ x :: r = t at htake hdrop ⊢
  cases t with
  | nil => simp [hl] at htake
  | cons d t =>
    have hread := readTime.eq_def (fuel + 1) (d :: t) rank p
    simp only [htake, hnumeral, hdrop, Bool.not_true, Bool.false_eq_true, if_false] at hread
    exact hread

theorem isNumeral_toDigits (n : Nat) : isNumeral (Nat.toDigits 10 n) = true := by
  have hdigits := isDigits_toDigits n
  rw [isNumeral, splitFirst?_eq_none (hdigits.not_mem (by decide))]
  simp [toDigits_ne_nil n, hdigits.all]

theorem point_not_mem_toDigits (n : Nat) : '.' ∉ Nat.toDigits 10 n :=
  (isDigits_toDigits n).not_mem (by decide)

theorem readTime_counter {c : Counter} (hc : ¬ c.InDate) (hn : n ≠ 0) (hrank : rank < c.place) :
    readTime (fuel + 1) (Nat.toDigits 10 n ++ c.designator :: r) rank p =
      readTime fuel r c.place (c.set n p) := by
  have hdesignator : isDigit c.designator = false ∧ c.designator ≠ '.' := by
    cases c <;> decide
  rw [readTime_numeral (isDigits_toDigits n).writtenWith (isNumeral_toDigits n) hdesignator]
  have hwhole : (Nat.toDigits 10 n).contains '.' = false := by
    simpa using point_not_mem_toDigits n
  cases c with
  | years => exact absurd trivial hc
  | months => exact absurd trivial hc
  | days => exact absurd trivial hc
  | _ =>
    simp only [Counter.designator, Counter.set, bne_iff_ne.mpr hn, Bool.or_true, hwhole,
      Bool.or_false, digitsValue_toDigits, decide_eq_true_eq]
    exact if_neg (Nat.not_le.mpr hrank)

/-- The text of a number of seconds, which is left out if it is zero. -/
def secondsText (seconds : Decimal) : List Char :=
  if seconds.isZero then [] else seconds.text.toList ++ ['S']

theorem isNumeral_digitText (c s : Nat) : isNumeral (Decimal.digitText c s).toList = true := by
  obtain ⟨whole, fraction, hwhole, hfraction, hne, hlen, -, htext⟩ := Decimal.digitText_spec c s
  have hpoint := hwhole.not_mem (c := '.') (by decide)
  rw [htext]
  by_cases h0 : s = 0
  · rw [if_pos h0, List.append_nil, isNumeral, splitFirst?_eq_none hpoint]
    simp [hne, hwhole.all]
  · have hne' : fraction ≠ [] := List.ne_nil_of_length_pos (by omega)
    rw [if_neg h0, isNumeral, splitFirst?_append hpoint]
    simp [hne, hne', hwhole.all, hfraction.all]

theorem readTime_seconds {s : Decimal} (hs : s.negative = false) (h0 : s.isZero = false)
    (hrank : rank < 3) :
    readTime (fuel + 1) (s.text.toList ++ 'S' :: r) rank p =
      readTime fuel r 3 (withSeconds s.normalize p) := by
  have hliteral := Decimal.ofLiteral?_text s
  rw [Decimal.text_of_positive hs] at hliteral ⊢
  rw [readTime_numeral (Decimal.writtenWith_digitText _ _) (isNumeral_digitText _ _) (by decide)]
  simp [withSeconds, Nat.not_le.mpr hrank, hliteral, Decimal.isZero_normalize, h0]

/-- The text of the hours, minutes and seconds of a duration. -/
def timeText (hours minutes : Nat) (seconds : Decimal) : List Char :=
  component hours 'H' ++ (component minutes 'M' ++ secondsText seconds)

theorem readTime_timeText {h m : Nat} {s : Decimal} (hs : s.negative = false)
    (hfuel : (timeText h m s).length ≤ fuel) (hhours : p.hours = 0) (hminutes : p.minutes = 0)
    (hseconds : p.seconds = .zero) :
    readTime fuel (timeText h m s) 0 p =
      some (withSeconds s.normalize (Counter.minutes.set m (Counter.hours.set h p))) := by
  obtain ⟨fuel, rank, hfuel, hrank, hh⟩ := read_component (x := 'H')
    (fun _ _ _ _ _ => readTime_counter (c := .hours) id)
    (Counter.set_zero hhours) Nat.zero_lt_one hfuel
  obtain ⟨fuel, rank, hfuel, hrank, hm⟩ := read_component (x := 'M')
    (fun _ _ _ _ _ => readTime_counter (c := .minutes) id)
    (Counter.set_zero (p := Counter.hours.set h p) hminutes) (Nat.lt_succ_of_le hrank) hfuel
  rw [timeText, hh, hm]
  by_cases h0 : s.isZero
  · have hzero : s.normalize = .zero := if_pos h0
    rw [secondsText, if_pos h0, readTime, hzero,
      withSeconds_zero (p := Counter.minutes.set m (Counter.hours.set h p)) hseconds]
  · rw [secondsText, if_neg h0] at hfuel ⊢
    rw [List.length_append, List.length_singleton] at hfuel
    obtain ⟨fuel, rfl⟩ : ∃ f, fuel = f + 1 := ⟨fuel - 1, by omega⟩
    rw [readTime_seconds hs (by simpa using h0) (Nat.lt_succ_of_le hrank), readTime]

theorem positive_of_numeral {s : List Char} (h : isNumeral s = true) {d : Decimal}
    (hd : Decimal.ofLiteral? s = some d) : d.negative = false := by
  obtain ⟨x, t, rfl, hx⟩ : ∃ x t, s = x :: t ∧ isDigit x = true := by
    unfold isNumeral at h
    split at h
    · cases s with
      | nil => cases h
      | cons x t => simp_all
    · rename_i a b hsplit
      obtain ⟨rfl, -⟩ := splitFirst?_eq_some hsplit
      cases a with
      | nil => cases h
      | cons x t => simp_all
  exact Decimal.positive_of_ofLiteral? hx hd

/-- What is read has no sign, and neither have the seconds. -/
theorem readTime_run {s : List Char} {q : DurationParts}
    (h : readTime fuel s rank p = some q) (hp : p.seconds.negative = false) :
    '-' ∉ s ∧ q.seconds.negative = false := by
  -- only the step of the designator `S` sets the seconds, to a numeral without a sign
  induction fuel generalizing s rank p with
  | zero =>
    cases s with
    | nil => exact ⟨List.not_mem_nil, by rwa [← Option.some.inj h]⟩
    | cons c s => cases h
  | succ fuel ih =>
    cases s with
    | nil => exact ⟨List.not_mem_nil, by rwa [← Option.some.inj h]⟩
    | cons c s =>
      have hstep : ∀ {x r rank p'}, (c :: s).drop
          ((c :: s).takeWhile fun c => isDigit c || c == '.').length = x :: r →
          '-' ≠ x → readTime fuel r rank p' = some q → p'.seconds.negative = false →
            '-' ∉ c :: s ∧ q.seconds.negative = false := by
        intro x r rank p' hdrop hx hr hp'
        obtain ⟨hsign, hseconds⟩ := ih hr hp'
        exact ⟨not_mem_of_drop (by decide) hdrop hx hsign, hseconds⟩
      simp only [readTime, ge_iff_le] at h
      split at h
      · cases h
      · rename_i hnumeral
        split at h
        · rename_i hdrop
          exact hstep hdrop (by decide) (Option.ite_none_left_eq_some.mp h).2 hp
        · rename_i hdrop
          exact hstep hdrop (by decide) (Option.ite_none_left_eq_some.mp h).2 hp
        · rename_i hdrop
          apply hstep hdrop (by decide) (Option.ite_none_left_eq_some.mp h).2
          cases hd : Decimal.ofLiteral? ((c :: s).takeWhile fun c => isDigit c || c == '.') with
          | none => rfl
          | some d => exact positive_of_numeral (by simpa using hnumeral) hd
        · cases h

/-! ## 4. The whole text -/

/-- What the reader does with the text behind the designator `P`. -/
def readBehind (negative : Bool) (r : List Char) : Option DurationParts :=
  let (date, time?) := match splitFirst? 'T' r with
    | some (d, t) => (d, some t)
    | none => (r, none)
  let parts? := (readDate r.length date 0 { negative }).bind fun p =>
    match time? with
    | none => some p
    | some [] => none
    | some t => readTime r.length t 0 p
  parts?.filter fun p => p.hasYearMonth || p.hasDayTime

/-- The sign and the designator in front of the components. -/
def lead (negative : Bool) : List Char := if negative then ['-', 'P'] else ['P']

theorem parse?_lead {lexical : String} (h : trim lexical.toList = lead negative ++ r) :
    parse? lexical = readBehind negative r := by
  unfold parse?
  rw [h]
  cases negative <;> rfl

theorem readBehind_date (h : 'T' ∉ r) : readBehind negative r =
    (readDate r.length r 0 { negative }).filter fun p => p.hasYearMonth || p.hasDayTime := by
  rw [readBehind, splitFirst?_eq_none h]
  dsimp only
  rw [Option.bind_fun_some]

theorem readBehind_time {a : List Char} (h : 'T' ∉ a) (c : Char) (t : List Char) :
    readBehind negative (a ++ 'T' :: c :: t) =
      ((readDate (a ++ 'T' :: c :: t).length a 0 { negative }).bind fun p =>
        readTime (a ++ 'T' :: c :: t).length (c :: t) 0 p).filter
          fun p => p.hasYearMonth || p.hasDayTime := by
  rw [readBehind, splitFirst?_append h]

/-- A text that is read has no sign behind the designator, and neither have its seconds. -/
theorem readBehind_run {q : DurationParts} (h : readBehind negative r = some q) :
    '-' ∉ r ∧ q.seconds.negative = false := by
  cases hsplit : splitFirst? 'T' r with
  | none =>
    rw [readBehind, hsplit] at h
    dsimp only at h
    rw [Option.bind_fun_some] at h
    obtain ⟨hsign, hseconds⟩ := readDate_run (Option.filter_eq_some_iff.mp h).1
    exact ⟨hsign, by rw [hseconds]; rfl⟩
  | some dt =>
    obtain ⟨date, time⟩ := dt
    obtain ⟨rfl, hT⟩ := splitFirst?_eq_some hsplit
    cases time with
    | nil => simp [readBehind, hsplit] at h
    | cons c t =>
      rw [readBehind_time hT] at h
      obtain ⟨p, hdate, htime⟩ := Option.bind_eq_some_iff.mp (Option.filter_eq_some_iff.mp h).1
      obtain ⟨hsign, hseconds⟩ := readDate_run hdate
      obtain ⟨hsign', hseconds'⟩ := readTime_run htime (by rw [hseconds]; rfl)
      rw [List.mem_append, List.mem_cons, not_or, not_or]
      exact ⟨⟨hsign, by decide, hsign'⟩, hseconds'⟩

theorem readBehind_sign (h : '-' ∈ r) : readBehind negative r = none := by
  by_contra hne
  obtain ⟨q, hq⟩ := Option.ne_none_iff_exists'.mp hne
  exact (readBehind_run hq).1 h

theorem positive_of_parse? {lexical : String} (h : parse? lexical = some p) :
    p.seconds.negative = false := by
  unfold parse? at h
  dsimp only at h
  split at h
  · exact (readBehind_run h).2
  · cases h

/-- The time part of the text of a duration, which is left out if it has no components. -/
def timePart (hours minutes : Nat) (seconds : Decimal) : List Char :=
  if hours = 0 ∧ minutes = 0 ∧ seconds.isZero = true then []
  else 'T' :: timeText hours minutes seconds

/-- The parts with the given components. -/
def ofComponents (negative : Bool) (years months days hours minutes : Nat) (seconds : Decimal) :
    DurationParts where
  negative := negative
  years := years
  months := months
  days := days
  hours := hours
  minutes := minutes
  seconds := seconds
  hasYearMonth := years != 0 || months != 0
  hasDayTime := days != 0 || hours != 0 || minutes != 0 || !seconds.isZero
  overflowed := years ≥ limit || months ≥ limit || days ≥ limit || hours ≥ limit || minutes ≥ limit

variable {y m d h mi : Nat} {s : Decimal} {marks : List Char}

theorem ofComponents_eq : withSeconds s (Counter.minutes.set mi (Counter.hours.set h
    (Counter.days.set d (Counter.months.set m (Counter.years.set y { negative }))))) =
      ofComponents negative y m d h mi s := rfl

theorem writtenWith_component (n : Nat) (hx : x ∈ marks) : WrittenWith marks (component n x) := by
  unfold component
  split
  · exact writtenWith_nil
  · simp [hx, (isDigits_toDigits n).writtenWith]

theorem writtenWith_dateText : WrittenWith ['Y', 'M', 'D'] (dateText y m d) := by
  simp [dateText, writtenWith_component]

theorem component_eq_nil {n : Nat} : component n x = [] ↔ n = 0 := by
  unfold component
  split
  · simp [*]
  · simp [*]

theorem timeText_ne_nil (h0 : ¬ (h = 0 ∧ mi = 0 ∧ s.isZero = true)) : timeText h mi s ≠ [] := by
  intro hnil
  obtain ⟨hh, hnil⟩ := List.append_eq_nil_iff.mp hnil
  obtain ⟨hmi, hs⟩ := List.append_eq_nil_iff.mp hnil
  refine h0 ⟨component_eq_nil.mp hh, component_eq_nil.mp hmi, ?_⟩
  by_contra hs0
  simp [secondsText, hs0] at hs

/-- The parts are read back from the text of their components, if there is one. -/
theorem readBehind_text (hs : s.negative = false)
    (hp : ((ofComponents negative y m d h mi s.normalize).hasYearMonth ||
      (ofComponents negative y m d h mi s.normalize).hasDayTime) = true) :
    readBehind negative (dateText y m d ++ timePart h mi s) =
      some (ofComponents negative y m d h mi s.normalize) := by
  have hT : 'T' ∉ dateText y m d := writtenWith_dateText.not_mem (by decide)
  by_cases h0 : h = 0 ∧ mi = 0 ∧ s.isZero = true
  -- there is no time part, and reading none gives the same parts
  · rw [timePart, if_pos h0, List.append_nil, readBehind_date hT, readDate_dateText le_rfl]
    obtain ⟨rfl, rfl, hzero⟩ := h0
    have hnormal : s.normalize = .zero := if_pos hzero
    rw [hnormal] at hp ⊢
    rw [← ofComponents_eq, withSeconds_zero rfl, Counter.set_zero rfl, Counter.set_zero rfl] at hp ⊢
    exact Option.filter_eq_some_iff.mpr ⟨rfl, hp⟩
  · obtain ⟨c, t, ht⟩ := List.exists_cons_of_ne_nil (timeText_ne_nil h0)
    have hfuel : (timeText h mi s).length ≤ (dateText y m d ++ 'T' :: timeText h mi s).length := by
      rw [List.length_append, List.length_cons]
      omega
    rw [timePart, if_neg h0]
    rw [ht] at hfuel ⊢
    rw [readBehind_time hT, readDate_dateText (by simp), Option.bind_some]
    rw [← ht] at hfuel ⊢
    rw [readTime_timeText hs hfuel rfl rfl rfl, ofComponents_eq]
    exact Option.filter_eq_some_iff.mpr ⟨rfl, hp⟩

end DurationParts

end XPath
