import XPath.Library.Strings
import XPath.Proofs.Numerals
import XPath.Proofs.Result
import XPath.Value.Lexical

/-!
# White space around lexical forms

The readers of lexical forms take away white space of any kind at both ends of a text, not only the
four characters that are white space in XML.  So a text that is accepted still is accepted, as the
same value, without the XML white space at its ends; but then there may be other white space left,
which `normalize-space` keeps.
-/

namespace XPath

open XPath.Number XPath.Text Temporal

variable {T : AtomicType} {v : Atomic} {s t : List Char} {c : Char}

/-! ## 1. White space at the ends -/

namespace Text

/-- The text without XML white space at either end. -/
def xmlTrim (s : List Char) : List Char :=
  ((s.dropWhile isXmlSpace).reverse.dropWhile isXmlSpace).reverse

/-- The white space at the ends of a text. -/
def outerSpace (s : List Char) : List Char :=
  s.takeWhile isSpace ++ s.reverse.takeWhile isSpace

theorem isSpace_of_isXmlSpace (h : isXmlSpace c = true) : isSpace c = true := by
  simp only [isXmlSpace, Bool.or_eq_true, beq_iff_eq] at h
  obtain ((rfl | rfl) | rfl) | rfl := h <;> rfl

theorem dropWhile_isXmlSpace (h : ∀ c ∈ s.takeWhile isSpace, isXmlSpace c = true) :
    s.dropWhile isXmlSpace = s.dropWhile isSpace := by
  induction s with
  | nil => rfl
  | cons c s ih =>
    cases hc : isSpace c with
    | false =>
      have hxml : isXmlSpace c = false :=
        Bool.eq_false_iff.mpr fun h => Bool.eq_false_iff.mp hc (isSpace_of_isXmlSpace h)
      simp [hc, hxml]
    | true =>
      rw [List.takeWhile_cons_of_pos hc, List.forall_mem_cons] at h
      rw [List.dropWhile_cons_of_pos hc, List.dropWhile_cons_of_pos h.1, ih h.2]

/-- In front of a text without white space there, all white space is at the end. -/
theorem mem_takeWhile_around {a w b : List Char} (ha : ∀ c ∈ a, isSpace c = true)
    (hw : ∀ c, w.head? = some c → isSpace c = false)
    (h : c ∈ (a ++ (w ++ b)).takeWhile isSpace) : c ∈ a ∨ c ∈ b := by
  rw [List.takeWhile_append_of_pos ha, List.mem_append] at h
  refine h.imp_right fun h => ?_
  cases w with
  | nil => exact List.takeWhile_subset isSpace h
  | cons x w => simp [hw x rfl] at h

theorem xmlTrim_eq_trim_iff : xmlTrim s = trim s ↔ ∀ c ∈ outerSpace s, isXmlSpace c = true := by
  constructor
  · intro h
    obtain ⟨a, b, hs, ha, hb⟩ := exists_around isXmlSpace s
    change s = a ++ xmlTrim s ++ b at hs
    obtain ⟨-, hfirst, hlast⟩ := isTrimmed_trim s
    rw [← h] at hfirst hlast
    generalize xmlTrim s = w at hs hfirst hlast
    subst hs
    rw [outerSpace, List.forall_mem_append]
    constructor
    · intro c hc
      rw [List.append_assoc] at hc
      exact (mem_takeWhile_around (fun d hd => isSpace_of_isXmlSpace (ha d hd)) hfirst hc).elim
        (ha c) (hb c)
    · intro c hc
      rw [List.reverse_append, List.reverse_append] at hc
      have hback : ∀ d ∈ b.reverse, isSpace d = true :=
        fun d hd => isSpace_of_isXmlSpace (hb d (List.mem_reverse.mp hd))
      exact (mem_takeWhile_around hback (by rwa [List.head?_reverse]) hc).elim
        (fun hm => hb c (List.mem_reverse.mp hm)) (fun hm => ha c (List.mem_reverse.mp hm))
  · intro h
    obtain ⟨hfront, hback⟩ := List.forall_mem_append.mp h
    have hinner : ∀ c ∈ (s.dropWhile isSpace).reverse.takeWhile isSpace, isXmlSpace c = true := by
      intro c hc
      apply hback
      rw [← List.takeWhile_append_dropWhile (p := isSpace) (l := s), List.reverse_append,
        List.takeWhile_append]
      split
      · exact List.mem_append_left _ (List.takeWhile_subset isSpace hc)
      · exact hc
    rw [xmlTrim, trim, dropWhile_isXmlSpace hfront, dropWhile_isXmlSpace hinner]

theorem trim_cons (hc : isSpace c = false) (hs : ∀ d ∈ s.getLast?, isSpace d = false) :
    trim (c :: s) = c :: s := by
  refine trim_of_ends (by simpa using hc) ?_
  intro d hd
  cases s with
  | nil => simp_all
  | cons x s => exact hs d (by simpa using hd)

theorem trim_concat (hc : isSpace c = false) (hs : ∀ d ∈ s.head?, isSpace d = false) :
    trim (s ++ [c]) = s ++ [c] := by
  refine trim_of_ends ?_ (by simpa using hc)
  intro d hd
  cases s with
  | nil => simp_all
  | cons x s => exact hs d (by simpa using hd)

end Text

/-! ## 2. Readers -/

/-- The types whose values are read from a text without the white space at its ends: truth values,
exact numbers, dates and times, durations, and bytes in hexadecimal. -/
def AtomicType.ReadsTrimmed : AtomicType → Prop
  | boolean | integer | decimal | dateTime | date | time | gYearMonth | gYear | gMonthDay | gDay
  | gMonth | duration | yearMonthDuration | dayTimeDuration | hexBinary => True
  | _ => False

/-- The types whose texts may end with a time zone. -/
def AtomicType.IsZoned : AtomicType → Prop
  | dateTime | date | time | gYearMonth | gYear | gMonthDay | gDay | gMonth => True
  | _ => False

variable {lexical lexical' : String}

theorem DateTime.parse_eq_ok {w : DateTime} :
    DateTime.parse lexical = .ok w ↔ DateTime.read? (trim lexical.toList) = some w := by
  unfold DateTime.parse
  cases DateTime.read? (trim lexical.toList) <;> simp

theorem Date.parse_eq_ok {w : Date} :
    Date.parse lexical = .ok w ↔ Date.read? (trim lexical.toList) = some w := by
  unfold Date.parse
  cases Date.read? (trim lexical.toList) <;> simp

theorem Time.parse_eq_ok {w : Time} :
    Time.parse lexical = .ok w ↔ Time.read? (trim lexical.toList) = some w := by
  unfold Time.parse
  cases Time.read? (trim lexical.toList) <;> simp

theorem Gregorian.parse_eq_ok {kind : GregorianKind} {w : Gregorian} :
    Gregorian.parse kind lexical = .ok w ↔
      Gregorian.read? kind (trim lexical.toList) = some w := by
  unfold Gregorian.parse
  cases Gregorian.read? kind (trim lexical.toList) <;> simp

namespace Atomic

theorem parseBoolean?_congr (h : trim lexical.toList = trim lexical'.toList) :
    parseBoolean? lexical = parseBoolean? lexical' := by
  unfold parseBoolean?
  rw [h]

theorem parseInteger?_congr (h : trim lexical.toList = trim lexical'.toList) :
    Numeric.parseInteger? lexical = Numeric.parseInteger? lexical' := by
  unfold Numeric.parseInteger?
  rw [h]

theorem parse?_congr (h : trim lexical.toList = trim lexical'.toList) :
    DurationParts.parse? lexical = DurationParts.parse? lexical' := by
  unfold DurationParts.parse?
  rw [h]

/-- Only the message of an error has the white space in it. -/
theorem ofLexical_congr (hT : T.ReadsTrimmed) (h : trim lexical.toList = trim lexical'.toList) :
    ofLexical T lexical = .ok v ↔ ofLexical T lexical' = .ok v := by
  cases T with
  | boolean =>
    simp only [ofLexical, parseBoolean?_congr h]
    cases parseBoolean? lexical' <;> simp
  | integer =>
    simp only [ofLexical, parseInteger?_congr h]
    cases Numeric.parseInteger? lexical' <;> simp
  | hexBinary =>
    simp only [ofLexical, h]
    cases hexBytes? (trim lexical'.toList) <;> simp
  | decimal =>
    simp only [ofLexical, Numeric.parseDecimal, h]
    rcases takeSign (trim lexical'.toList) with ⟨negative, body⟩
    rcases (splitFirst? '.' body).getD (body, []) with ⟨whole, fraction⟩
    dsimp only
    split
    · simp [Except.map]
    · split <;> simp [Except.map]
  | dateTime => simp only [ofLexical, except_map_eq_ok, DateTime.parse_eq_ok, h]
  | date => simp only [ofLexical, except_map_eq_ok, Date.parse_eq_ok, h]
  | time => simp only [ofLexical, except_map_eq_ok, Time.parse_eq_ok, h]
  | gYearMonth | gYear | gMonthDay | gDay | gMonth =>
    simp only [ofLexical, except_map_eq_ok, Gregorian.parse_eq_ok, h]
  | duration =>
    simp only [ofLexical, Duration.parse, parse?_congr h]
    cases DurationParts.parse? lexical' <;> simp [Except.map]
  | yearMonthDuration =>
    simp only [ofLexical, YearMonthDuration.parse, parse?_congr h]
    cases (DurationParts.parse? lexical').filter (!·.hasDayTime) <;> simp [Except.map]
  | dayTimeDuration =>
    simp only [ofLexical, DayTimeDuration.parse, parse?_congr h]
    cases (DurationParts.parse? lexical').filter (!·.hasYearMonth) <;> simp [Except.map]
  | _ => exact hT.elim

/-! ## 3. The text without XML white space -/

/-- What is left of a text without the XML white space at its ends has no other white space there
and is read as the same value. -/
structure IsCollapsed (T : AtomicType) (lexical : String) (v : Atomic) : Prop where
  first : ∀ c ∈ (xmlTrim lexical.toList).head?, isSpace c = false
  last : ∀ c ∈ (xmlTrim lexical.toList).getLast?, isSpace c = false
  reads : ofLexical T (String.ofList (xmlTrim lexical.toList)) = .ok v

theorem isCollapsed_iff (hT : T.ReadsTrimmed) (h : ofLexical T lexical = .ok v) :
    IsCollapsed T lexical v ↔ ∀ c ∈ outerSpace lexical.toList, isXmlSpace c = true := by
  rw [← xmlTrim_eq_trim_iff]
  have htrimmed := isTrimmed_trim lexical.toList
  constructor
  · rintro ⟨hfirst, hlast, -⟩
    obtain ⟨a, b, hs, ha, hb⟩ := exists_around isXmlSpace lexical.toList
    refine (trim_eq_iff.mpr ⟨⟨a, b, hs, ?_, ?_⟩, hfirst, hlast⟩).symm
    · exact fun c hc => isSpace_of_isXmlSpace (ha c hc)
    · exact fun c hc => isSpace_of_isXmlSpace (hb c hc)
  · intro heq
    refine ⟨heq ▸ htrimmed.first, heq ▸ htrimmed.last, ?_⟩
    have htrim : trim lexical.toList = trim (String.ofList (xmlTrim lexical.toList)).toList := by
      rw [String.toList_ofList, heq, trim_trim]
    exact (ofLexical_congr hT htrim).mp h

/-! ## 4. Characters that are ignored -/

/-- Whether a character may be put at either end of every text that is accepted. -/
def Ignores (T : AtomicType) (c : Char) : Prop := ∀ lexical v, ofLexical T lexical = .ok v →
  ofLexical T (String.singleton c ++ lexical) = .ok v ∧
    ofLexical T (lexical ++ String.singleton c) = .ok v

theorem ignores_of_isSpace (hT : T.ReadsTrimmed) (hc : isSpace c = true) : Ignores T c := by
  intro lexical v h
  obtain ⟨⟨a, b, hs, ha, hb⟩, hfirst, hlast⟩ := isTrimmed_trim lexical.toList
  constructor
  · refine (ofLexical_congr hT ?_).mpr h
    refine trim_eq_iff.mpr ⟨⟨c :: a, b, ?_, List.forall_mem_cons.mpr ⟨hc, ha⟩, hb⟩, hfirst, hlast⟩
    rw [String.toList_append, String.toList_singleton, List.singleton_append]
    exact congrArg (c :: ·) hs
  · refine (ofLexical_congr hT ?_).mpr h
    refine trim_eq_iff.mpr ⟨⟨a, b ++ [c], ?_, ha, ?_⟩, hfirst, hlast⟩
    · rw [String.toList_append, String.toList_singleton, ← List.append_assoc, ← hs]
    · exact List.forall_mem_append.mpr ⟨hb, by simpa using hc⟩

/-! ## 5. Characters that are not ignored -/

/-- If a sample text is not read behind a character, then that character is ignored only if it is
white space. -/
theorem isSpace_of_ignores_before (h : Ignores T c) (sample : String)
    (hread : ∃ v, ofLexical T sample = .ok v)
    (hsolid : sample.toList.any isSpace = false)
    (hbefore : ∀ lexical v, trim lexical.toList = c :: sample.toList →
      ofLexical T lexical ≠ .ok v) : isSpace c = true := by
  by_contra hc
  obtain ⟨v, hv⟩ := hread
  refine hbefore _ v ?_ (h sample v hv).1
  rw [String.toList_append, String.toList_singleton, List.singleton_append]
  exact trim_cons (Bool.eq_false_iff.mpr hc)
    fun d hd => Bool.eq_false_iff.mpr (List.any_eq_false.mp hsolid d (List.mem_of_mem_getLast? hd))

theorem parseBoolean?_before_one (h : trim lexical.toList = [c, '1']) :
    parseBoolean? lexical = none := by
  unfold parseBoolean?
  rw [h]
  simp

/-- Behind the sign of a numeral no other sign can stand. -/
theorem not_before_minus (sign : Numeric.LeadingSign) {body : List Char} (hbody : '-' ∉ body) :
    c :: '-' :: s ≠ sign.text ++ body := by
  intro h
  cases sign with
  | absent =>
    obtain rfl : c :: '-' :: s = body := h
    simp at hbody
  | plus | minus =>
    obtain rfl : '-' :: s = body := (List.cons.inj h).2
    simp at hbody

theorem parseInteger?_before_minus (h : trim lexical.toList = c :: '-' :: s) :
    Numeric.parseInteger? lexical = none := by
  rw [Option.eq_none_iff_forall_ne_some]
  intro i hi
  obtain ⟨⟨sign, n⟩, htext, -⟩ := Numeric.parseInteger?_eq_some_iff.mp hi
  exact not_before_minus sign (n.isDigits.not_mem (by decide)) (h.symm.trans htext)

theorem parseDecimal_before_minus (h : trim lexical.toList = c :: '-' :: s) :
    Numeric.parseDecimal lexical = .error (.invalidLexical "xs:decimal" lexical) := by
  apply Numeric.parseDecimal_of_no_form
  rintro ⟨sign, b⟩ htext
  exact not_before_minus sign (b.writtenWith_text.not_mem (by decide)) (h.symm.trans htext)

theorem readBehind_minus : DurationParts.readBehind false ('-' :: s) = none := by
  cases h : splitFirst? 'T' s <;>
    simp [DurationParts.readBehind, splitFirst?, h, DurationParts.readDate, isDigit]

theorem parse?_before_minus (h : trim lexical.toList = c :: '-' :: s) :
    DurationParts.parse? lexical = none := by
  rw [Option.eq_none_iff_forall_ne_some]
  intro p hp
  obtain ⟨negative, r, hlead⟩ := DurationParts.exists_lead hp
  cases negative with
  | true =>
    have hminus : '-' = 'P' := (List.cons.inj (List.cons.inj (h.symm.trans hlead)).2).1
    exact absurd hminus (by decide)
  | false =>
    obtain rfl : '-' :: s = r := (List.cons.inj (h.symm.trans hlead)).2
    rw [DurationParts.parse?_lead hlead, readBehind_minus] at hp
    cases hp

theorem splitZone?_behind_utc {x : Char} (hx : x ≠ ':') (hc : c ≠ 'Z') :
    splitZone? (s ++ [x, 'Z', c]) = some (s ++ [x, 'Z', c], none) := by
  have hreverse : (s ++ [x, 'Z', c]).reverse = c :: 'Z' :: x :: s.reverse := by simp
  unfold splitZone?
  rw [hreverse]
  split
  · rename_i h
    exact absurd (List.cons.inj h).1 hc
  · rename_i h
    exact absurd (List.cons.inj (List.cons.inj (List.cons.inj h).2).2).1 hx
  · rfl

/-- The time zone at the end of the text of a date, a time or a fragment of a date. -/
def writtenZone? : Atomic → Option TimeZone
  | dateTime v => v.zone
  | date v => v.zone
  | time v => v.zone
  | gregorian v => v.zone
  | _ => none

/-- The time zone is the one that the text ends with. -/
theorem writtenZone?_of_ofLexical (hT : T.IsZoned) (h : ofLexical T lexical = .ok v) :
    ∃ body, splitZone? (trim lexical.toList) = some (body, v.writtenZone?) := by
  cases T with
  | dateTime =>
    obtain ⟨w, hr, rfl⟩ := except_map_eq_ok.mp h
    simp only [DateTime.parse_eq_ok, DateTime.read?, Option.bind_eq_bind,
      Option.bind_eq_some_iff, Option.some.injEq] at hr
    obtain ⟨⟨body, zone⟩, hsplit, -, -, -, -, -, -, -, -, rfl⟩ := hr
    exact ⟨body, hsplit⟩
  | date =>
    obtain ⟨w, hr, rfl⟩ := except_map_eq_ok.mp h
    simp only [Date.parse_eq_ok, Date.read?, Option.bind_eq_bind,
      Option.bind_eq_some_iff, Option.some.injEq] at hr
    obtain ⟨⟨body, zone⟩, hsplit, -, -, rfl⟩ := hr
    exact ⟨body, hsplit⟩
  | time =>
    obtain ⟨w, hr, rfl⟩ := except_map_eq_ok.mp h
    simp only [Time.parse_eq_ok, Time.read?, Option.bind_eq_bind,
      Option.bind_eq_some_iff, Option.some.injEq] at hr
    obtain ⟨⟨body, zone⟩, hsplit, -, -, rfl⟩ := hr
    exact ⟨body, hsplit⟩
  | gYearMonth | gYear | gMonthDay | gDay | gMonth =>
    obtain ⟨w, hr, rfl⟩ := except_map_eq_ok.mp h
    simp only [Gregorian.parse_eq_ok, Gregorian.read?, Option.bind_eq_bind,
      Option.bind_eq_some_iff, Option.some.injEq] at hr
    obtain ⟨⟨body, zone⟩, hsplit, -, -, -, -, rfl⟩ := hr
    exact ⟨body, hsplit⟩
  | _ => exact hT.elim

theorem splitZone?_utc (s : List Char) : splitZone? (s ++ ['Z']) = some (s, some .utc) := by
  simp [splitZone?]

/-- Behind the `Z` of a time zone, another one leaves a text that is not read, and any other
character leaves no time zone. -/
theorem isSpace_of_ignores_zoned (h : Ignores T c) (hT : T.IsZoned) (sample : String)
    (s : List Char) (x : Char) (hsample : sample.toList = s ++ [x, 'Z']) (hx : x ≠ ':')
    (hsolid : sample.toList.any isSpace = false) (hread : ∃ v, ofLexical T sample = .ok v)
    (htwice : ∀ v, ofLexical T (sample ++ "Z") ≠ .ok v) : isSpace c = true := by
  by_contra hc
  have hsolid (d : Char) (hd : d ∈ sample.toList) : isSpace d = false :=
    Bool.eq_false_iff.mpr (List.any_eq_false.mp hsolid d hd)
  obtain ⟨v, hv⟩ := hread
  have hbehind := (h sample v hv).2
  by_cases hz : c = 'Z'
  · subst hz
    exact htwice v hbehind
  · obtain ⟨body, hzone⟩ := writtenZone?_of_ofLexical hT hv
    obtain ⟨body', hnone⟩ := writtenZone?_of_ofLexical hT hbehind
    have hutc : splitZone? (s ++ [x, 'Z']) = some (s ++ [x], some .utc) := by
      simpa using splitZone?_utc (s ++ [x])
    have htrim : trim (sample ++ String.singleton c).toList = s ++ [x, 'Z', c] := by
      rw [String.toList_append, String.toList_singleton, trim_concat (Bool.eq_false_iff.mpr hc)
        (fun d hd => hsolid d (List.mem_of_mem_head? hd)), hsample, List.append_assoc]
      rfl
    rw [htrim, splitZone?_behind_utc hx hz] at hnone
    rw [trim_eq_self hsolid, hsample, hutc] at hzone
    simp only [Option.some.injEq, Prod.mk.injEq] at hzone hnone
    have hzones := hzone.2.trans hnone.2.symm
    cases hzones

theorem isSpace_of_ignores (hT : T.ReadsTrimmed) (h : Ignores T c) : isSpace c = true := by
  cases T with
  | boolean =>
    refine isSpace_of_ignores_before h "1" ⟨_, rfl⟩ rfl fun lexical v ht => ?_
    simp [ofLexical, parseBoolean?_before_one ht]
  | integer =>
    refine isSpace_of_ignores_before h "-1" ⟨_, rfl⟩ rfl fun lexical v ht => ?_
    simp [ofLexical, parseInteger?_before_minus ht]
  | decimal =>
    refine isSpace_of_ignores_before h "-1" ⟨_, rfl⟩ rfl fun lexical v ht => ?_
    simp [ofLexical, parseDecimal_before_minus ht, Except.map]
  | hexBinary =>
    refine isSpace_of_ignores_before h "" ⟨_, rfl⟩ rfl fun lexical v ht => ?_
    simp [ofLexical, ht, hexBytes?]
  | duration =>
    refine isSpace_of_ignores_before h "-P1M" ⟨_, rfl⟩ rfl fun lexical v ht => ?_
    simp [ofLexical, Duration.parse, parse?_before_minus ht, Except.map]
  | yearMonthDuration =>
    refine isSpace_of_ignores_before h "-P1M" ⟨_, rfl⟩ rfl fun lexical v ht => ?_
    simp [ofLexical, YearMonthDuration.parse, parse?_before_minus ht, Except.map]
  | dayTimeDuration =>
    refine isSpace_of_ignores_before h "-PT1S" ⟨_, rfl⟩ rfl fun lexical v ht => ?_
    simp [ofLexical, DayTimeDuration.parse, parse?_before_minus ht, Except.map]
  | dateTime =>
    exact isSpace_of_ignores_zoned h trivial "2000-01-01T00:00:00Z" "2000-01-01T00:00:0".toList '0'
      rfl (by decide) rfl ⟨_, rfl⟩ (by rintro v ⟨⟩)
  | date =>
    exact isSpace_of_ignores_zoned h trivial "2000-01-01Z" "2000-01-0".toList '1'
      rfl (by decide) rfl ⟨_, rfl⟩ (by rintro v ⟨⟩)
  | time =>
    exact isSpace_of_ignores_zoned h trivial "00:00:00Z" "00:00:0".toList '0'
      rfl (by decide) rfl ⟨_, rfl⟩ (by rintro v ⟨⟩)
  | gYearMonth =>
    exact isSpace_of_ignores_zoned h trivial "2000-01Z" "2000-0".toList '1'
      rfl (by decide) rfl ⟨_, rfl⟩ (by rintro v ⟨⟩)
  | gYear =>
    exact isSpace_of_ignores_zoned h trivial "2000Z" "200".toList '0'
      rfl (by decide) rfl ⟨_, rfl⟩ (by rintro v ⟨⟩)
  | gMonthDay =>
    exact isSpace_of_ignores_zoned h trivial "--01-01Z" "--01-0".toList '1'
      rfl (by decide) rfl ⟨_, rfl⟩ (by rintro v ⟨⟩)
  | gDay =>
    exact isSpace_of_ignores_zoned h trivial "---01Z" "---0".toList '1'
      rfl (by decide) rfl ⟨_, rfl⟩ (by rintro v ⟨⟩)
  | gMonth =>
    exact isSpace_of_ignores_zoned h trivial "--01Z" "--0".toList '1'
      rfl (by decide) rfl ⟨_, rfl⟩ (by rintro v ⟨⟩)
  | _ => exact hT.elim

theorem ignores_iff (hT : T.ReadsTrimmed) : Ignores T c ↔ isSpace c = true :=
  ⟨isSpace_of_ignores hT, ignores_of_isSpace hT⟩

end Atomic

/-! ## 6. Normalized space -/

namespace Library

/-- Whether `normalize-space` drops a character at either end of every text. -/
def Drops (call : Call) (c : Char) : Prop := ∀ s,
  normalizeSpace call [[.string (String.singleton c ++ s)]] = normalizeSpace call [[.string s]] ∧
    normalizeSpace call [[.string (s ++ String.singleton c)]] = normalizeSpace call [[.string s]]

theorem normalizeSpace_string (call : Call) (s : String) : normalizeSpace call [[.string s]] =
    .ok [.string (" ".intercalate ((wordsBy isXmlSpace s.toList).map String.ofList))] := rfl

theorem drops_iff {call : Call} : Drops call c ↔ isXmlSpace c = true := by
  have hnil : wordsBy isXmlSpace [] = [] := rfl
  constructor
  · intro h
    by_contra hc
    have hword : wordsBy isXmlSpace [c] = [[c]] := by
      simp [wordsBy, pieces, Bool.eq_false_iff.mpr hc]
    have hempty := (h "").1
    rw [normalizeSpace_string, normalizeSpace_string] at hempty
    simp [hword, hnil, Item.string] at hempty
  · intro hc s
    have hfront := wordsBy_append_cons [] s.toList hc
    have hback := wordsBy_append_cons s.toList [] hc
    rw [hnil, List.nil_append, List.nil_append] at hfront
    rw [hnil, List.append_nil] at hback
    simp only [normalizeSpace_string, String.toList_append, String.toList_singleton,
      List.singleton_append, hfront, hback, and_self]

end Library

namespace Atomic

/-- An accepted text is collapsed by taking away XML white space only if there is no other white
space at its ends.  All white space is ignored there, of which `normalize-space` drops only the XML
white space. -/
theorem ofLexical_isCollapsed_iff (hT : T.ReadsTrimmed) :
    (∀ lexical v, ofLexical T lexical = .ok v →
      (IsCollapsed T lexical v ↔ ∀ c ∈ outerSpace lexical.toList, isXmlSpace c = true)) ∧
    (∀ c, Ignores T c ↔ isSpace c = true) ∧
    ∀ call c, Library.Drops call c ↔ isXmlSpace c = true :=
  ⟨fun _ _ => isCollapsed_iff hT, fun _ => ignores_iff hT, fun _ _ => Library.drops_iff⟩

theorem ofLexical_isCollapsed_iff_sample : AtomicType.boolean.ReadsTrimmed ∧
    ofLexical .boolean " true\n" = .ok (boolean true) ∧
      IsCollapsed .boolean " true\n" (boolean true) ∧ ¬ Ignores .boolean '0' := by
  obtain ⟨hcollapsed, hignores, -⟩ := ofLexical_isCollapsed_iff (T := .boolean) trivial
  exact ⟨trivial, rfl, (hcollapsed _ _ rfl).mpr (List.all_eq_true.mp rfl),
    (hignores _).not.mpr (by decide)⟩

/-- A no-break space is ignored, though it is left when the XML white space is gone, and
`normalize-space` keeps it. -/
theorem not_isCollapsed_noBreakSpace :
    ofLexical .boolean "\u00a0true" = .ok (boolean true) ∧
      ¬ IsCollapsed .boolean "\u00a0true" (boolean true) ∧
      Ignores .boolean '\u00a0' ∧ ∀ call, ¬ Library.Drops call '\u00a0' := by
  refine ⟨rfl, ?_, ignores_of_isSpace trivial (by decide), fun call => ?_⟩
  · rw [isCollapsed_iff (T := .boolean) trivial rfl, ← List.all_eq_true]
    decide
  · rw [Library.drops_iff]
    decide

end Atomic

end XPath
