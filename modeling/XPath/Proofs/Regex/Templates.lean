import XPath.Library.Patterns
import XPath.Proofs.Regex.TemplateNumbers

/-!
# Templates

A template is written as a text and references, each with a text behind it.  In these texts there
is a backslash before each sign.  The reader accepts what is written so and nothing else, and it
finds the texts and the groups.  The numbers that it computes have a limit.
-/

namespace XPath.Regex.Template

open XPath.Text

variable {groups : Nat} {digits rest s : List Char} {c : Char}

/-! ## 1. Signs -/

/-- The characters that do not stand for themselves. -/
def isSign (c : Char) : Bool := c == '$' || c == '\\'

/-- A text as it is written in a template, with a backslash before each sign. -/
def escape (s : List Char) : List Char :=
  s.flatMap fun c => if isSign c then ['\\', c] else [c]

/-- Whether the character behind a text is escaped.  A backslash escapes the character behind it,
unless it is itself escaped. -/
def escapesNext (s : List Char) : Bool :=
  s.foldl (fun escaped c => !escaped && c == '\\') false

/-- Whether a character that is not escaped may stand before a text: a backslash only before a sign,
and a dollar sign only before a digit. -/
def MayStandBefore (c : Char) (rest : List Char) : Prop :=
  (c = '\\' → ∃ d ∈ rest.head?, isSign d = true) ∧ (c = '$' → ∃ d ∈ rest.head?, isDigit d = true)

/-- Whether each backslash that is not escaped has a sign behind it, and each dollar sign that is
not escaped has a digit behind it. -/
def WellFormed (s : List Char) : Prop :=
  ∀ before c rest, s = before ++ c :: rest → escapesNext before = false → MayStandBefore c rest

theorem isSign_iff : isSign c = true ↔ c = '$' ∨ c = '\\' := by
  simp [isSign]

theorem isSign_eq_false_iff : isSign c = false ↔ c ≠ '$' ∧ c ≠ '\\' := by
  simp [isSign]

theorem isSign_of_isDigit (h : isDigit c = true) : isSign c = false := by
  rw [isSign_eq_false_iff]
  refine ⟨?_, ?_⟩ <;> (rintro rfl; exact absurd h (by decide))

theorem escape_cons_sign (h : isSign c = true) (s : List Char) :
    escape (c :: s) = '\\' :: c :: escape s := by
  simp [escape, h]

theorem escape_cons_plain (h : isSign c = false) (s : List Char) :
    escape (c :: s) = c :: escape s := by
  simp [escape, h]

theorem mayStandBefore_of_plain (h : isSign c = false) (rest : List Char) :
    MayStandBefore c rest := by
  obtain ⟨hdollar, hbackslash⟩ := isSign_eq_false_iff.mp h
  exact ⟨fun hc => absurd hc hbackslash, fun hc => absurd hc hdollar⟩

theorem mayStandBefore_backslash :
    MayStandBefore '\\' rest ↔ ∃ d ∈ rest.head?, isSign d = true := by
  simp [MayStandBefore]

theorem mayStandBefore_dollar :
    MayStandBefore '$' rest ↔ ∃ d ∈ rest.head?, isDigit d = true := by
  simp [MayStandBefore]

theorem wellFormed_nil : WellFormed [] := by
  intro before c rest h
  simp at h

theorem wellFormed_cons : WellFormed (c :: s) ↔ MayStandBefore c s ∧
    ∀ before d rest, s = before ++ d :: rest → escapesNext (c :: before) = false →
      MayStandBefore d rest := by
  constructor
  · intro h
    refine ⟨h [] c s rfl rfl, fun before d rest hs he => ?_⟩
    exact h (c :: before) d rest (by rw [hs, List.cons_append]) he
  · rintro ⟨hc, hs⟩ before d rest h he
    rcases List.append_eq_cons_iff.mp h.symm with ⟨rfl, hd⟩ | ⟨before, rfl, hrest⟩
    · obtain ⟨rfl, rfl⟩ := List.cons.inj hd
      exact hc
    · exact hs before d rest hrest he

theorem escapesNext_cons (h : c ≠ '\\') (s : List Char) :
    escapesNext (c :: s) = escapesNext s := by
  have hfirst : (c == '\\') = false := by simpa using h
  simp [escapesNext, hfirst]

theorem escapesNext_pair (c : Char) (s : List Char) :
    escapesNext ('\\' :: c :: s) = escapesNext s := by
  simp [escapesNext]

theorem wellFormed_cons_of_ne (h : c ≠ '\\') :
    WellFormed (c :: s) ↔ MayStandBefore c s ∧ WellFormed s := by
  simp only [wellFormed_cons, escapesNext_cons h]
  rfl

theorem wellFormed_plain (h : isSign c = false) : WellFormed (c :: s) ↔ WellFormed s := by
  rw [wellFormed_cons_of_ne (isSign_eq_false_iff.mp h).2]
  exact and_iff_right (mayStandBefore_of_plain h s)

theorem wellFormed_escaped (h : isSign c = true) : WellFormed ('\\' :: c :: s) ↔ WellFormed s := by
  have hfirst : MayStandBefore '\\' (c :: s) := mayStandBefore_backslash.mpr ⟨c, rfl, h⟩
  rw [wellFormed_cons, and_iff_right hfirst]
  constructor
  · intro hs before d rest hd he
    exact hs (c :: before) d rest (by rw [hd, List.cons_append]) (by rwa [escapesNext_pair])
  · intro hs before d rest hd he
    rcases List.append_eq_cons_iff.mp hd.symm with ⟨rfl, -⟩ | ⟨before, rfl, hrest⟩
    · cases he
    · exact hs before d rest hrest (by rwa [escapesNext_pair] at he)

theorem wellFormed_digits (h : IsDigits digits) :
    WellFormed (digits ++ rest) ↔ WellFormed rest := by
  induction digits with
  | nil => rfl
  | cons c digits ih =>
    rw [List.cons_append, wellFormed_plain (isSign_of_isDigit (h c List.mem_cons_self))]
    exact ih fun d hd => h d (List.mem_cons_of_mem c hd)

/-! ## 2. Reading from the left -/

/-- How a template may begin: with nothing, an escaped sign, a reference, a character that is no
sign, or a sign that may not stand there. -/
theorem induction_from_left {motive : List Char → Prop} (groups : Nat) (nil : motive [])
    (escaped : ∀ c s, isSign c = true → motive s → motive ('\\' :: c :: s))
    (reference : ∀ digits rest, IsLongestNumber groups digits rest → motive rest →
      motive ('$' :: (digits ++ rest)))
    (plain : ∀ c s, isSign c = false → motive s → motive (c :: s))
    (stray : ∀ c s, isSign c = true → ¬ MayStandBefore c s → motive (c :: s)) (s : List Char) :
    motive s := by
  induction s using read?.induct groups with
  | case1 => exact nil
  | case2 c s h ih => exact escaped c s h ih
  | case3 c s h =>
    refine stray '\\' (c :: s) rfl ?_
    rw [mayStandBefore_backslash]
    rintro ⟨d, ⟨⟩, hd⟩
    exact h hd
  | case4 =>
    refine stray '\\' [] rfl ?_
    simp [mayStandBefore_backslash]
  | case5 c s h ih =>
    -- what is read next begins behind the longest number, not behind the first digit
    obtain ⟨more, rest, rfl, hnumber, hlongest⟩ :=
      exists_groupNumber (isNumber_single groups h) s
    have hvalue : c.toNat - '0'.toNat = digitsValue [c] := by simp [digitsValue]
    rw [hvalue, hnumber] at ih
    exact reference (c :: more) rest hlongest ih
  | case6 c s h =>
    refine stray '$' (c :: s) rfl ?_
    rw [mayStandBefore_dollar]
    rintro ⟨d, ⟨⟩, hd⟩
    exact h hd
  | case7 =>
    refine stray '$' [] rfl ?_
    simp [mayStandBefore_dollar]
  | case8 c s hescape hbackslash hreference hdollar ih =>
    refine plain c s ?_ ih
    rw [isSign_eq_false_iff]
    cases s with
    | nil => exact ⟨fun hc => hdollar hc rfl, fun hc => hbackslash hc rfl⟩
    | cons d s => exact ⟨fun hc => hreference d s hc rfl, fun hc => hescape d s hc rfl⟩

theorem read?_escaped (h : isSign c = true) :
    read? groups ('\\' :: c :: s) = (read? groups s).map (consChar c) := by
  rw [read?]
  exact if_pos h

theorem read?_plain (h : isSign c = false) :
    read? groups (c :: s) = (read? groups s).map (consChar c) := by
  obtain ⟨hdollar, hbackslash⟩ := isSign_eq_false_iff.mp h
  rw [read?]
  · exact fun _ _ hc _ => hbackslash hc
  · exact fun hc _ => hbackslash hc
  · exact fun _ _ hc _ => hdollar hc
  · exact fun hc _ => hdollar hc

theorem read?_reference (h : IsLongestNumber groups digits rest) :
    read? groups ('$' :: (digits ++ rest)) =
      (read? groups rest).map (.group (digitsValue digits) :: ·) := by
  obtain ⟨c, more, rfl, hc⟩ := h.isNumber.exists_cons
  rw [List.cons_append, read?, if_pos hc, groupNumber_of_isLongest hc h]

theorem read?_stray (h : isSign c = true) (hstray : ¬ MayStandBefore c s) :
    read? groups (c :: s) = none := by
  rcases isSign_iff.mp h with rfl | rfl
  · cases s with
    | nil => rw [read?]
    | cons d s =>
      rw [read?]
      exact if_neg fun hd => hstray (mayStandBefore_dollar.mpr ⟨d, rfl, hd⟩)
  · cases s with
    | nil => rw [read?]
    | cons d s =>
      rw [read?]
      exact if_neg fun hd => hstray (mayStandBefore_backslash.mpr ⟨d, rfl, hd⟩)

theorem wellFormed_reference (h : IsLongestNumber groups digits rest) :
    WellFormed ('$' :: (digits ++ rest)) ↔ WellFormed rest := by
  have hfirst : MayStandBefore '$' (digits ++ rest) := by
    obtain ⟨c, more, rfl, hc⟩ := h.isNumber.exists_cons
    exact mayStandBefore_dollar.mpr ⟨c, rfl, hc⟩
  rw [wellFormed_cons_of_ne (by decide), and_iff_right hfirst,
    wellFormed_digits h.isNumber.isDigits]

theorem isSome_read?_iff (groups : Nat) (s : List Char) :
    (read? groups s).isSome = true ↔ WellFormed s := by
  induction s using induction_from_left groups with
  | nil =>
    rw [read?]
    exact iff_of_true rfl wellFormed_nil
  | escaped c s h ih => rw [read?_escaped h, Option.isSome_map, ih, wellFormed_escaped h]
  | reference digits rest h ih =>
    rw [read?_reference h, Option.isSome_map, ih, wellFormed_reference h]
  | plain c s h ih => rw [read?_plain h, Option.isSome_map, ih, wellFormed_plain h]
  | stray c s h hstray =>
    rw [read?_stray h hstray]
    exact iff_of_false Bool.false_ne_true fun hwell => hstray (wellFormed_cons.mp hwell).1

/-! ## 3. Written templates -/

/-- The pieces that a text is read as: the text, or none if it is empty. -/
def ofText : List Char → Template
  | [] => []
  | s => [.text s]

/-- A reference with the digits of its number, and the text behind it. -/
structure Reference where
  digits : List Char
  text : List Char

def Reference.source (r : Reference) : List Char := '$' :: (r.digits ++ escape r.text)

def Reference.pieces (r : Reference) : Template := .group (digitsValue r.digits) :: ofText r.text

/-- Whether the number of each reference is the longest one that the digits behind its dollar sign
begin with. -/
def AreLongest (groups : Nat) : List Reference → Prop
  | [] => True
  | r :: l => IsLongestNumber groups r.digits (escape r.text ++ l.flatMap Reference.source) ∧
      AreLongest groups l

/-- A template by its text in front of all references, and the references in order. -/
structure Written where
  text : List Char
  references : List Reference

def Written.source (w : Written) : List Char :=
  escape w.text ++ w.references.flatMap Reference.source

def Written.template (w : Written) : Template :=
  ofText w.text ++ w.references.flatMap Reference.pieces

/-- A character belongs to the text that follows it, or is one by itself before a reference. -/
theorem consChar_ofText (c : Char) (u : List Char) (l : List Reference) :
    consChar c (ofText u ++ l.flatMap Reference.pieces) =
      ofText (c :: u) ++ l.flatMap Reference.pieces := by
  cases u with
  | nil => cases l <;> rfl
  | cons d u => rfl

theorem read?_escape_append {l : List Reference}
    (h : read? groups s = some (l.flatMap Reference.pieces)) (u : List Char) :
    read? groups (escape u ++ s) = some (ofText u ++ l.flatMap Reference.pieces) := by
  induction u with
  | nil => exact h
  | cons c u ih =>
    cases hc : isSign c with
    | true =>
      rw [escape_cons_sign hc, List.cons_append, List.cons_append, read?_escaped hc, ih,
        Option.map_some, consChar_ofText]
    | false =>
      rw [escape_cons_plain hc, List.cons_append, read?_plain hc, ih, Option.map_some,
        consChar_ofText]

theorem read?_references {l : List Reference} (h : AreLongest groups l) :
    read? groups (l.flatMap Reference.source) = some (l.flatMap Reference.pieces) := by
  -- on the references: what is read behind a text is nothing, or begins with a group
  induction l with
  | nil =>
    show read? groups [] = some []
    rw [read?]
  | cons r l ih =>
    have hsource : (r :: l).flatMap Reference.source =
        '$' :: (r.digits ++ (escape r.text ++ l.flatMap Reference.source)) := by
      simp [Reference.source]
    rw [hsource, read?_reference h.1, read?_escape_append (ih h.2), Option.map_some]
    rfl

theorem read?_source {w : Written} (h : AreLongest groups w.references) :
    read? groups w.source = some w.template :=
  read?_escape_append (read?_references h) w.text

theorem exists_written (groups : Nat) (s : List Char) {t : Template}
    (h : read? groups s = some t) :
    ∃ w : Written, AreLongest groups w.references ∧ w.source = s ∧ w.template = t := by
  induction s using induction_from_left groups generalizing t with
  | nil =>
    rw [read?] at h
    obtain rfl := Option.some.inj h
    exact ⟨⟨[], []⟩, trivial, rfl, rfl⟩
  | escaped c s hc ih =>
    rw [read?_escaped hc] at h
    obtain ⟨t, hs, rfl⟩ := Option.map_eq_some_iff.mp h
    obtain ⟨w, hlongest, rfl, rfl⟩ := ih hs
    refine ⟨⟨c :: w.text, w.references⟩, hlongest, ?_, (consChar_ofText c _ _).symm⟩
    rw [Written.source, escape_cons_sign hc]
    rfl
  | reference digits rest hnumber ih =>
    rw [read?_reference hnumber] at h
    obtain ⟨t, hs, rfl⟩ := Option.map_eq_some_iff.mp h
    obtain ⟨w, hlongest, rfl, rfl⟩ := ih hs
    refine ⟨⟨[], ⟨digits, w.text⟩ :: w.references⟩, ⟨hnumber, hlongest⟩, ?_, rfl⟩
    simp [Written.source, Reference.source, escape]
  | plain c s hc ih =>
    rw [read?_plain hc] at h
    obtain ⟨t, hs, rfl⟩ := Option.map_eq_some_iff.mp h
    obtain ⟨w, hlongest, rfl, rfl⟩ := ih hs
    refine ⟨⟨c :: w.text, w.references⟩, hlongest, ?_, (consChar_ofText c _ _).symm⟩
    rw [Written.source, escape_cons_plain hc]
    rfl
  | stray c s hc hstray =>
    rw [read?_stray hc hstray] at h
    cases h

theorem read?_eq_some_iff {t : Template} : read? groups s = some t ↔
    ∃ w : Written, AreLongest groups w.references ∧ w.source = s ∧ w.template = t := by
  constructor
  · exact exists_written groups s
  · rintro ⟨w, hlongest, rfl, rfl⟩
    exact read?_source hlongest

theorem read?_escape (groups : Nat) (u : List Char) :
    read? groups (escape u) = some (ofText u) := by
  have hread : read? groups (Written.source ⟨u, []⟩) = _ := read?_source trivial
  simpa [Written.source, Written.template] using hread

/-! ## 4. Limited numbers -/

variable {limit : Nat}

/-- Reads a template as `read?` does, in numbers up to a limit.  There is no answer if a number is
above the limit, even if a sign behind it may not stand there. -/
def readUpTo? (limit groups : Nat) : List Char → Option (Option Template)
  | [] => some (some [])
  | '\\' :: c :: r =>
    if isSign c then (readUpTo? limit groups r).map (·.map (consChar c)) else some none
  | ['\\'] => some none
  | '$' :: c :: r =>
    if isDigit c then
      match _h : numberUpTo? limit groups c r with
      | some (n, rest) => (readUpTo? limit groups rest).map (·.map (.group n.val :: ·))
      | none => none
    else some none
  | ['$'] => some none
  | c :: r => (readUpTo? limit groups r).map (·.map (consChar c))
termination_by s => s.length
decreasing_by
  · simp only [List.length_cons]; omega
  · have hle := numberUpTo?_rest_le _h
    simp only [List.length_cons]; omega
  · simp only [List.length_cons]; omega

/-- All numbers keep the limit, also those that are computed before a template is refused. -/
theorem readUpTo?_eq (hlimit : max (10 * groups + 9) 99 ≤ limit) (s : List Char) :
    readUpTo? limit groups s = some (read? groups s) := by
  induction s using read?.induct groups with
  | case1 => rw [readUpTo?, read?]
  | case2 c s h ih =>
    rw [readUpTo?, read?, if_pos h, ih]
    exact if_pos h
  | case3 c s h =>
    rw [readUpTo?, read?, if_neg h]
    exact if_neg h
  | case4 => rw [readUpTo?, read?]
  | case5 c s h ih =>
    obtain ⟨n, hn, hnumber⟩ := exists_numberUpTo? hlimit h s
    rw [readUpTo?, read?, if_pos h, if_pos h]
    split
    · rename_i m rest hm
      cases hn.symm.trans hm
      rw [ih, hnumber, Option.map_some]
    · rename_i hm
      cases hn.symm.trans hm
  | case6 c s h => rw [readUpTo?, read?, if_neg h, if_neg h]
  | case7 => rw [readUpTo?, read?]
  | case8 c s hescape hbackslash hreference hdollar ih =>
    rw [readUpTo?.eq_6 limit groups c s hescape hbackslash hreference hdollar,
      read?.eq_6 groups c s hescape hbackslash hreference hdollar, ih, Option.map_some]

theorem exists_readUpTo?_eq_none (hlimit : limit < max (10 * groups + 9) 99) :
    ∃ s, readUpTo? limit groups s = none := by
  obtain ⟨c, s, hc, hnone⟩ := exists_numberUpTo?_eq_none hlimit
  refine ⟨'$' :: c :: s, ?_⟩
  rw [readUpTo?, if_pos hc]
  split
  · rename_i hsome
    cases hnone.symm.trans hsome
  · rfl

/-- The least limit that all numbers keep which are computed for all templates. -/
theorem readUpTo?_eq_iff : (∀ s, readUpTo? limit groups s = some (read? groups s)) ↔
    max (10 * groups + 9) 99 ≤ limit := by
  constructor
  · intro h
    by_contra hlimit
    obtain ⟨s, hs⟩ := exists_readUpTo?_eq_none (Nat.lt_of_not_le hlimit)
    cases (h s).symm.trans hs
  · exact readUpTo?_eq

/-! ## 5. The reader -/

theorem read_eq_ok_iff {s : String} {t : Template} :
    read groups s = .ok t ↔ read? groups s.toList = some t := by
  unfold read
  cases read? groups s.toList <;> simp

theorem read_eq_error_iff {s : String} {e : Error} :
    read groups s = .error e ↔
      ¬ WellFormed s.toList ∧ e = .of .FORX0004 ("invalid replacement string: '" ++ s ++ "'") := by
  rw [← isSome_read?_iff groups, read]
  cases read? groups s.toList with
  | none => simp [Error.malformedReplacement, eq_comm]
  | some t => simp

theorem exists_read_eq_ok_iff {s : String} :
    (∃ t, read groups s = .ok t) ↔ WellFormed s.toList := by
  simp only [read_eq_ok_iff, ← isSome_read?_iff groups, Option.isSome_iff_exists]

/-- A template is read exactly if each of its signs has behind it what it needs, and is an error
otherwise.  What is read are the texts without their escapes and a group for each reference, whose
number takes as many digits as it can.  The greatest number that may be computed is ten times the
number of groups and nine, or 99 if that is more.  A text that is escaped is read as this text. -/
theorem read_exact (groups : Nat) :
    (∀ s : String, (∃ t, read groups s = .ok t) ↔ WellFormed s.toList) ∧
    (∀ (s : String) e, read groups s = .error e ↔ ¬ WellFormed s.toList ∧
      e = .of .FORX0004 ("invalid replacement string: '" ++ s ++ "'")) ∧
    (∀ (s : String) t, read groups s = .ok t ↔
      ∃ w : Written, AreLongest groups w.references ∧ w.source = s.toList ∧ w.template = t) ∧
    (∀ limit, (∀ s, readUpTo? limit groups s = some (read? groups s)) ↔
      max (10 * groups + 9) 99 ≤ limit) ∧
    ∀ u : String, read groups (String.ofList (escape u.toList)) = .ok (ofText u.toList) := by
  refine ⟨fun _ => exists_read_eq_ok_iff, fun _ _ => read_eq_error_iff, fun _ _ => ?_,
    fun _ => readUpTo?_eq_iff, fun u => ?_⟩
  · rw [read_eq_ok_iff, read?_eq_some_iff]
  · rw [read_eq_ok_iff, String.toList_ofList, read?_escape]

/-- With eleven groups a number takes no third digit, and an escaped dollar sign is text. -/
example : read? 11 "\\$$1112".toList = some [.text ['$'], .group 11, .text ['1', '2']] := by cbv

end XPath.Regex.Template
