import XPath.Library.Table
import XPath.Proofs.Types.Arguments

/-!
# Results of library functions

Every function of the library declares the type of its results, and nothing checks them at run
time.  Whenever a function of the library gives a result, the result has the declared type.  The
functions do so whatever they are called with; only `fn:sum` relies on the conversion of its
arguments, since for an empty sum it gives its second argument back.
-/

namespace XPath

/-- All results of the function have the type. -/
def BodyGives (body : FunctionBody) (p : ParameterType) : Prop :=
  ∀ call args, Ensures (body call args) fun s => p.hasSequence s = true

/-! ## 1. Shapes of results -/

section Shapes

open Library

variable {α : Type} {t : ParameterItem} {p : ParameterType} {body : FunctionBody}

theorem hasItem_of_type {t : AtomicType} {v : Atomic} (h : v.type = t) :
    (ParameterItem.atomic t).hasItem (.atomic v) = true := by
  show v.type.derivesFrom t = true
  rw [h, AtomicType.derivesFrom_refl]

theorem one_singleton {i : Item} (h : t.hasItem i = true) : (one t).hasSequence [i] = true := by
  simp [one, ParameterType.hasSequence, Occurrence.allows, h]

theorem opt_nil : (opt t).hasSequence [] = true := rfl

theorem opt_singleton {i : Item} (h : t.hasItem i = true) : (opt t).hasSequence [i] = true := by
  simp [opt, ParameterType.hasSequence, Occurrence.allows, h]

theorem opt_map {o : Option α} {f : α → Item} (h : ∀ a ∈ o, t.hasItem (f a) = true) :
    (opt t).hasSequence (o.map f).toList = true := by
  cases o with
  | none => exact opt_nil
  | some a => exact opt_singleton (h a rfl)

theorem opt_bind {t : AtomicType} {o : Option α} {f : α → Option Atomic}
    (h : ∀ a, ∀ v ∈ f a, v.type = t) :
    (opt (.atomic t)).hasSequence ((o.bind f).map Item.atomic).toList = true := by
  refine opt_map fun v hv => ?_
  rcases Option.bind_eq_some_iff.mp hv with ⟨a, _, ha⟩
  exact hasItem_of_type (h a v ha)

theorem opt_atomicResult {t : AtomicType} {o : Option α} {f : α → Atomic}
    (h : ∀ a, (f a).type = t) :
    (opt (.atomic t)).hasSequence (atomicResult (o.map f)) = true := by
  rw [atomicResult, Option.map_map]
  exact opt_map fun a _ => hasItem_of_type (h a)

theorem many_map {l : List α} {f : α → Item} (h : ∀ a, t.hasItem (f a) = true) :
    (many t).hasSequence (l.map f) = true := by
  refine ParameterType.hasSequence_iff.mpr ⟨rfl, fun i hi => ?_⟩
  rcases List.mem_map.mp hi with ⟨a, _, rfl⟩
  exact h a

theorem many_item (s : Sequence) : (many .item).hasSequence s = true :=
  ParameterType.hasSequence_iff.mpr ⟨rfl, fun _ _ => rfl⟩

/-- A function that never fails. -/
theorem gives_of_ok {f : Call → List Sequence → Sequence}
    (h : ∀ call args, body call args = .ok (f call args))
    (hf : ∀ call args, p.hasSequence (f call args) = true) : BodyGives body p := by
  intro call args
  rw [h]
  exact ensures_ok.mpr (hf call args)

/-- A function of a value that may fail to be found. -/
theorem gives_of_return {r : Call → List Sequence → Result α}
    {f : Call → List Sequence → α → Sequence}
    (h : ∀ call args, body call args = (do return f call args (← r call args)))
    (hf : ∀ call args a, p.hasSequence (f call args a) = true) : BodyGives body p := by
  intro call args
  rw [h]
  exact ensures_bind_of_forall fun a => ensures_pure.mpr (hf call args a)

/-- A function that always gives one item. -/
theorem gives_one {f : Call → List Sequence → Item}
    (h : ∀ call args, body call args = .ok [f call args])
    (hf : ∀ call args, t.hasItem (f call args) = true) : BodyGives body (one t) :=
  gives_of_ok h fun call args => one_singleton (hf call args)

/-- A function that gives one item made from what it finds. -/
theorem gives_one_of_return {r : Call → List Sequence → Result α}
    {f : Call → List Sequence → α → Item}
    (h : ∀ call args, body call args = (do return [f call args (← r call args)]))
    (hf : ∀ call args a, t.hasItem (f call args a) = true) : BodyGives body (one t) :=
  gives_of_return h fun call args a => one_singleton (hf call args a)

/-- Anything will do. -/
theorem gives_many_item (body : FunctionBody) : BodyGives body (many .item) :=
  fun _ _ => ensures_of_forall many_item

end Shapes

namespace Library

/-! ## 2. Families of functions -/

variable {t : AtomicType}

theorem gives_onNumeric (f : Numeric → Numeric) : BodyGives (onNumeric f) (opt .numeric) :=
  gives_of_ok (fun _ _ => rfl) fun _ _ => opt_map fun n _ => ParameterItem.isNumeric_type (f n)

theorem gives_onText (f : String → String) : BodyGives (onText f) (one (.atomic .string)) :=
  gives_one (fun _ _ => rfl) fun _ _ => rfl

theorem gives_ofDateTime {f : DateTime → Option Atomic} (h : ∀ v, ∀ w ∈ f v, w.type = t) :
    BodyGives (ofDateTime f) (opt (.atomic t)) :=
  gives_of_ok (fun _ _ => rfl) fun _ _ => opt_bind h

theorem gives_ofDate {f : Date → Option Atomic} (h : ∀ v, ∀ w ∈ f v, w.type = t) :
    BodyGives (ofDate f) (opt (.atomic t)) :=
  gives_of_ok (fun _ _ => rfl) fun _ _ => opt_bind h

theorem gives_ofTime {f : Time → Option Atomic} (h : ∀ v, ∀ w ∈ f v, w.type = t) :
    BodyGives (ofTime f) (opt (.atomic t)) :=
  gives_of_ok (fun _ _ => rfl) fun _ _ => opt_bind h

theorem type_zoneValue (z : Option TimeZone) : ∀ w ∈ zoneValue z, w.type = .dayTimeDuration := by
  intro w hw
  rcases Option.map_eq_some_iff.mp hw with ⟨_, _, rfl⟩
  rfl

theorem gives_monthsComponent (f : YearMonthDuration → Int) :
    BodyGives (monthsComponent f) (opt (.atomic .integer)) :=
  gives_of_ok (fun _ _ => rfl) fun _ _ => opt_map fun _ _ => rfl

theorem gives_secondsComponent (f : DayTimeDuration → Nat) :
    BodyGives (secondsComponent f) (opt (.atomic .integer)) :=
  gives_of_ok (fun _ _ => rfl) fun _ _ => opt_map fun _ _ => rfl

/-- A constructor gives values of its own type. -/
theorem gives_construct (t : AtomicType) : BodyGives (construct t) (opt (.atomic t)) := by
  intro call args
  unfold construct
  split
  · exact ensures_ok.mpr opt_nil
  · rename_i v _
    rw [ensures_bind]
    refine (Atomic.type_cast v t _).mono fun w hw => ensures_pure.mpr ?_
    exact opt_singleton (hasItem_of_type hw)

theorem gives_searchDocument (search : Node → List (List Char) → List Node) :
    BodyGives (searchDocument search) (many .node) := by
  intro call args
  unfold searchDocument
  refine ensures_bind_of_forall fun n? => ?_
  cases n? with
  | none => exact ensures_pure.mpr rfl
  | some n =>
    refine ensures_bind_of_forall fun root => ?_
    dsimp only
    split
    · exact ensures_pure.mpr rfl
    · exact ensures_bind_of_forall fun _ => ensures_pure.mpr (many_map fun _ => rfl)

theorem gives_extreme (function : String) (op : Comparison) :
    BodyGives (extreme function op) (opt .anyAtomic) := by
  intro call args
  unfold extreme
  exact ensures_bind_of_forall fun _ => ensures_bind_of_forall fun _ =>
    ensures_bind_of_forall fun _ => ensures_pure.mpr (opt_map fun _ _ => rfl)

/-! ## 3. Single functions -/

theorem gives_nilled : BodyGives nilled (opt (.atomic .boolean)) := by
  intro call args
  unfold nilled
  split
  · split
    · exact ensures_ok.mpr (opt_singleton rfl)
    · exact ensures_ok.mpr opt_nil
  · exact ensures_ok.mpr opt_nil

theorem gives_numberOf : BodyGives numberOf (one (.atomic .double)) := by
  intro call args
  unfold numberOf
  -- what is done with the values does not depend on where they come from
  split
  all_goals
    refine ensures_bind_of_forall fun values => ?_
    dsimp only
    split
    · rename_i v
      split
      · rename_i x hx
        exact ensures_pure.mpr (one_singleton (hasItem_of_type (Atomic.type_cast v _ _ x hx)))
      · exact ensures_pure.mpr (one_singleton rfl)
    · exact ensures_pure.mpr (one_singleton rfl)

theorem gives_compareTexts : BodyGives compareTexts (opt (.atomic .integer)) := by
  intro call args
  unfold compareTexts
  refine ensures_bind_of_forall fun c => ?_
  split
  · exact ensures_pure.mpr (opt_singleton rfl)
  · exact ensures_pure.mpr opt_nil

theorem gives_codepointEqual : BodyGives codepointEqual (opt (.atomic .boolean)) := by
  intro call args
  unfold codepointEqual
  split
  · exact ensures_ok.mpr (opt_singleton rfl)
  · exact ensures_ok.mpr opt_nil

theorem gives_normalizeUnicode : BodyGives normalizeUnicode (one (.atomic .string)) := by
  intro call args
  simp only [normalizeUnicode]
  split
  all_goals
    rw [ensures_ite]
    refine ⟨fun _ => ensures_ok.mpr (one_singleton rfl), fun _ => ?_⟩
    split
    · exact ensures_ok.mpr (one_singleton rfl)
    · exact ensures_error

theorem gives_resolvedUri : BodyGives resolvedUri (opt (.atomic .anyURI)) := by
  intro call args
  unfold resolvedUri
  split
  · exact ensures_ok.mpr opt_nil
  · exact ensures_bind_of_forall fun _ => ensures_pure.mpr (opt_singleton rfl)

theorem gives_adjustDateTime : BodyGives adjustDateTime (opt (.atomic .dateTime)) := by
  intro call args
  unfold adjustDateTime
  split
  · exact ensures_ok.mpr opt_nil
  · exact ensures_bind_of_forall fun _ => ensures_bind_of_forall fun _ =>
      ensures_pure.mpr (opt_singleton rfl)

theorem gives_adjustDate : BodyGives adjustDate (opt (.atomic .date)) := by
  intro call args
  unfold adjustDate
  split
  · exact ensures_ok.mpr opt_nil
  · exact ensures_bind_of_forall fun _ => ensures_bind_of_forall fun _ =>
      ensures_pure.mpr (opt_singleton rfl)

theorem gives_adjustTime : BodyGives adjustTime (opt (.atomic .time)) := by
  intro call args
  unfold adjustTime
  split
  · exact ensures_ok.mpr opt_nil
  · exact ensures_bind_of_forall fun _ => ensures_pure.mpr (opt_singleton rfl)

theorem gives_makeDateTime : BodyGives makeDateTime (opt (.atomic .dateTime)) := by
  intro call args
  unfold makeDateTime
  split
  · split
    · exact ensures_error
    · exact ensures_ok.mpr (opt_singleton rfl)
  · exact ensures_ok.mpr opt_nil

theorem gives_resolveQName : BodyGives resolveQName (opt (.atomic .qname)) := by
  intro call args
  unfold resolveQName
  split
  · exact ensures_pure.mpr opt_nil
  · refine ensures_bind_of_forall fun element => ensures_bind_of_forall fun name => ?_
    dsimp only
    split
    · exact ensures_pure.mpr (opt_singleton rfl)
    · split
      · exact ensures_pure.mpr (opt_singleton rfl)
      · exact ensures_error

theorem gives_makeQName : BodyGives makeQName (one (.atomic .qname)) := by
  intro call args
  unfold makeQName
  refine ensures_bind_of_forall fun name => ?_
  dsimp only
  split
  · exact ensures_error
  · exact ensures_pure.mpr (one_singleton rfl)

theorem gives_hasLanguage : BodyGives hasLanguage (one (.atomic .boolean)) := by
  intro call args
  unfold hasLanguage
  refine ensures_bind_of_forall fun n? => ?_
  cases n? with
  | none => exact ensures_pure.mpr (one_singleton rfl)
  | some n => exact ensures_pure.mpr (one_singleton rfl)

theorem gives_indexOf : BodyGives indexOf (many (.atomic .integer)) := by
  intro call args
  unfold indexOf
  refine ensures_bind_of_forall fun c => ?_
  split
  · exact ensures_pure.mpr rfl
  · exact ensures_pure.mpr (many_map fun _ => rfl)

theorem gives_zeroOrOne : BodyGives zeroOrOne (opt .item) := by
  intro call args
  unfold zeroOrOne
  dsimp only
  split
  · rename_i hle
    exact ensures_ok.mpr (ParameterType.hasSequence_iff.mpr ⟨decide_eq_true hle, fun _ _ => rfl⟩)
  · exact ensures_error

theorem gives_oneOrMore : BodyGives oneOrMore (more .item) := by
  intro call args
  unfold oneOrMore
  dsimp only
  split
  · exact ensures_error
  · rename_i hne
    have hlength := List.length_pos_iff.mpr (by simpa using hne)
    exact ensures_ok.mpr (ParameterType.hasSequence_iff.mpr
      ⟨decide_eq_true hlength, fun _ _ => rfl⟩)

theorem gives_exactlyOne : BodyGives exactlyOne (one .item) := by
  intro call args
  unfold exactlyOne
  dsimp only
  split
  · rename_i hlength
    exact ensures_ok.mpr (ParameterType.hasSequence_iff.mpr ⟨hlength, fun _ _ => rfl⟩)
  · exact ensures_error

theorem gives_averageOf : BodyGives averageOf (opt .anyAtomic) := by
  intro call args
  unfold averageOf
  refine ensures_bind_of_forall fun values => ensures_bind_of_forall fun _ =>
    ensures_bind_of_forall fun sum? => ?_
  cases sum? with
  | none => exact ensures_pure.mpr opt_nil
  | some v =>
    exact ensures_bind_of_forall fun _ => ensures_pure.mpr (opt_singleton rfl)

theorem gives_documentAt : BodyGives documentAt (opt .node) := by
  intro call args
  unfold documentAt
  split
  · exact ensures_pure.mpr opt_nil
  · exact ensures_bind_of_forall fun _ => ensures_bind_of_forall fun _ =>
      ensures_pure.mpr (opt_singleton rfl)

theorem gives_documentAvailable : BodyGives documentAvailable (one (.atomic .boolean)) := by
  intro call args
  unfold documentAvailable
  split
  · exact ensures_pure.mpr (one_singleton rfl)
  · exact ensures_bind_of_forall fun _ => ensures_pure.mpr (one_singleton rfl)

theorem gives_collectionAt : BodyGives collectionAt (many .node) := by
  intro call args
  unfold collectionAt
  exact ensures_bind_of_forall fun _ => ensures_bind_of_forall fun _ =>
    ensures_pure.mpr (many_map fun _ => rfl)

/-! ## 4. The table -/

theorem gives_accessorsTable : ∀ f ∈ accessorsTable, BodyGives f.body f.signature.result := by
  simp only [accessorsTable, List.forall_mem_cons]
  exact ⟨gives_of_ok (fun _ _ => rfl) fun _ _ => opt_atomicResult fun _ => rfl, gives_nilled,
    gives_one_of_return (fun _ _ => rfl) fun _ _ _ => rfl,
    gives_of_ok (fun _ _ => rfl) fun _ _ => many_map fun _ => rfl,
    gives_of_return (fun _ _ => rfl) fun _ _ _ => opt_atomicResult fun _ => rfl,
    gives_of_ok (fun _ _ => rfl) fun _ _ => opt_atomicResult fun _ => rfl,
    List.forall_mem_nil _⟩

theorem gives_diagnosticsTable : ∀ f ∈ diagnosticsTable, BodyGives f.body f.signature.result := by
  simp only [diagnosticsTable, List.forall_mem_cons]
  exact ⟨gives_many_item _, gives_many_item _, List.forall_mem_nil _⟩

theorem gives_numbersTable : ∀ f ∈ numbersTable, BodyGives f.body f.signature.result := by
  simp only [numbersTable, List.forall_mem_cons]
  exact ⟨gives_onNumeric _, gives_onNumeric _, gives_onNumeric _, gives_onNumeric _,
    fun call args => gives_onNumeric _ call args, gives_numberOf, List.forall_mem_nil _⟩

theorem gives_stringsTable : ∀ f ∈ stringsTable, BodyGives f.body f.signature.result := by
  simp only [stringsTable, List.forall_mem_cons]
  exact ⟨gives_one_of_return (fun _ _ => rfl) fun _ _ _ => rfl,
    gives_of_ok (fun _ _ => rfl) fun _ _ => many_map fun _ => rfl, gives_compareTexts,
    gives_codepointEqual, gives_one (fun _ _ => rfl) fun _ _ => rfl,
    gives_one (fun _ _ => rfl) fun _ _ => rfl, gives_one (fun _ _ => rfl) fun _ _ => rfl,
    gives_one_of_return (fun _ _ => rfl) fun _ _ _ => rfl,
    gives_one_of_return (fun _ _ => rfl) fun _ _ _ => rfl, gives_normalizeUnicode,
    gives_onText _, gives_onText _, gives_one (fun _ _ => rfl) fun _ _ => rfl, gives_onText _,
    gives_onText _, gives_onText _,
    gives_one_of_return (fun _ _ => rfl) fun _ _ _ => rfl,
    gives_one_of_return (fun _ _ => rfl) fun _ _ _ => rfl,
    gives_one_of_return (fun _ _ => rfl) fun _ _ _ => rfl,
    gives_one_of_return (fun _ _ => rfl) fun _ _ _ => rfl,
    gives_one_of_return (fun _ _ => rfl) fun _ _ _ => rfl,
    gives_one_of_return (fun _ _ => rfl) fun _ _ _ => rfl,
    gives_one_of_return (fun _ _ => rfl) fun _ _ _ => rfl,
    gives_of_return (fun _ _ => rfl) fun _ _ _ => many_map fun _ => rfl, gives_resolvedUri,
    List.forall_mem_nil _⟩

theorem gives_booleansTable : ∀ f ∈ booleansTable, BodyGives f.body f.signature.result := by
  simp only [booleansTable, List.forall_mem_cons]
  exact ⟨gives_one (fun _ _ => rfl) fun _ _ => rfl, gives_one (fun _ _ => rfl) fun _ _ => rfl,
    gives_one_of_return (fun _ _ => rfl) fun _ _ _ => rfl,
    gives_one_of_return (fun _ _ => rfl) fun _ _ _ => rfl, List.forall_mem_nil _⟩

theorem gives_durationsTable : ∀ f ∈ durationsTable, BodyGives f.body f.signature.result := by
  simp only [durationsTable, List.forall_mem_cons]
  exact ⟨gives_monthsComponent _, gives_monthsComponent _, gives_secondsComponent _,
    gives_secondsComponent _, gives_secondsComponent _,
    gives_of_ok (fun _ _ => rfl) fun _ _ => opt_map fun _ _ => rfl, List.forall_mem_nil _⟩

theorem gives_datesTable : ∀ f ∈ datesTable, BodyGives f.body f.signature.result := by
  -- components that a value always has
  have hsome {α : Type} {c : α → Atomic} {t : AtomicType} (h : ∀ a, (c a).type = t) :
      ∀ a, ∀ w ∈ some (c a), w.type = t := by
    rintro a w ⟨⟩
    exact h a
  simp only [datesTable, List.forall_mem_cons]
  exact ⟨gives_ofDateTime (hsome fun _ => rfl), gives_ofDateTime (hsome fun _ => rfl),
    gives_ofDateTime (hsome fun _ => rfl), gives_ofDateTime (hsome fun _ => rfl),
    gives_ofDateTime (hsome fun _ => rfl), gives_ofDateTime (hsome fun _ => rfl),
    gives_ofDateTime fun v => type_zoneValue v.zone, gives_ofDate (hsome fun _ => rfl),
    gives_ofDate (hsome fun _ => rfl), gives_ofDate (hsome fun _ => rfl),
    gives_ofDate fun v => type_zoneValue v.zone, gives_ofTime (hsome fun _ => rfl),
    gives_ofTime (hsome fun _ => rfl), gives_ofTime (hsome fun _ => rfl),
    gives_ofTime fun v => type_zoneValue v.zone, gives_adjustDateTime, gives_adjustDate,
    gives_adjustTime, gives_makeDateTime, List.forall_mem_nil _⟩

theorem gives_namesTable : ∀ f ∈ namesTable, BodyGives f.body f.signature.result := by
  simp only [namesTable, List.forall_mem_cons]
  exact ⟨gives_resolveQName, gives_makeQName,
    gives_of_ok (fun _ _ => rfl) fun _ _ => opt_atomicResult fun _ => rfl,
    gives_of_ok (fun _ _ => rfl) fun _ _ => opt_atomicResult fun _ => rfl,
    gives_of_ok (fun _ _ => rfl) fun _ _ => opt_atomicResult fun _ => rfl,
    gives_of_return (fun _ _ => rfl) fun _ _ _ => opt_atomicResult fun _ => rfl,
    gives_of_return (fun _ _ => rfl) fun _ _ _ => many_map fun _ => rfl, List.forall_mem_nil _⟩

theorem gives_nodesTable : ∀ f ∈ nodesTable, BodyGives f.body f.signature.result := by
  simp only [nodesTable, List.forall_mem_cons]
  exact ⟨gives_one_of_return (fun _ _ => rfl) fun _ _ _ => rfl,
    gives_one_of_return (fun _ _ => rfl) fun _ _ _ => rfl,
    gives_of_return (fun _ _ => rfl) fun _ _ _ => opt_singleton rfl, gives_hasLanguage,
    gives_of_return (fun _ _ => rfl) fun _ _ _ => opt_map fun _ _ => rfl, List.forall_mem_nil _⟩

theorem gives_contextsTable : ∀ f ∈ contextsTable, BodyGives f.body f.signature.result := by
  simp only [contextsTable, List.forall_mem_cons]
  exact ⟨gives_one_of_return (fun _ _ => rfl) fun _ _ _ => rfl,
    gives_one_of_return (fun _ _ => rfl) fun _ _ _ => rfl,
    gives_one (fun _ _ => rfl) fun _ _ => rfl, gives_one (fun _ _ => rfl) fun _ _ => rfl,
    gives_one (fun _ _ => rfl) fun _ _ => rfl, gives_one (fun _ _ => rfl) fun _ _ => rfl,
    gives_one (fun _ _ => rfl) fun _ _ => rfl,
    gives_of_ok (fun _ _ => rfl) fun _ _ => opt_map fun _ _ => rfl, List.forall_mem_nil _⟩

theorem gives_constructorsTable : ∀ f ∈ constructorsTable, BodyGives f.body f.signature.result := by
  intro f hf
  rcases List.mem_map.mp hf with ⟨t, _, rfl⟩
  exact gives_construct t

end Library

/-- The results of the function have its declared type, provided that its arguments have been
converted. -/
def LibraryFunction.Sound (f : LibraryFunction) : Prop :=
  ∀ call given args, f.signature.convertArguments given = .ok args →
    Ensures (f.body call args) fun s => f.signature.result.hasSequence s = true

namespace Library

theorem sound_of_gives {f : LibraryFunction} (h : BodyGives f.body f.signature.result) :
    f.Sound :=
  fun call _ args _ => h call args

/-- The second argument, which an empty sum gives back, is at most one value by its type. -/
theorem sound_sum :
    (function "sum" (.between 1 2) [many .anyAtomic, opt .anyAtomic] (opt .anyAtomic)
      sumOf).Sound := by
  intro call given args hargs
  have hfits := (Signature.convertFrom_settles _ 0 given args hargs).2.1
  unfold function sumOf
  refine ensures_bind_of_forall fun values => ensures_bind_of_forall fun _ =>
    ensures_bind_of_forall fun sum? => ?_
  cases sum? with
  | some v => exact ensures_pure.mpr (opt_singleton rfl)
  | none =>
    refine ensures_pure.mpr ?_
    rw [List.getD_eq_getElem?_getD]
    cases hzero : args[1]? with
    | none => exact opt_singleton rfl
    | some zero => exact hfits 1 _ zero (.inl rfl) hzero

theorem sound_sequencesTable : ∀ f ∈ sequencesTable, f.Sound := by
  simp only [sequencesTable, List.forall_mem_cons]
  exact ⟨sound_of_gives gives_indexOf, sound_of_gives (gives_one (fun _ _ => rfl) fun _ _ => rfl),
    sound_of_gives (gives_one (fun _ _ => rfl) fun _ _ => rfl),
    sound_of_gives (gives_of_return (fun _ _ => rfl) fun _ _ _ => many_map fun _ => rfl),
    sound_of_gives (gives_many_item _), sound_of_gives (gives_many_item _),
    sound_of_gives (gives_many_item _), sound_of_gives (gives_many_item _),
    sound_of_gives (gives_many_item _), sound_of_gives gives_zeroOrOne,
    sound_of_gives gives_oneOrMore, sound_of_gives gives_exactlyOne,
    sound_of_gives (gives_one_of_return (fun _ _ => rfl) fun _ _ _ => rfl),
    sound_of_gives (gives_one (fun _ _ => rfl) fun _ _ => rfl), sound_of_gives gives_averageOf,
    sound_of_gives (gives_extreme _ _), sound_of_gives (gives_extreme _ _), sound_sum,
    sound_of_gives (gives_searchDocument _), sound_of_gives (gives_searchDocument _),
    sound_of_gives gives_documentAt, sound_of_gives gives_documentAvailable,
    sound_of_gives gives_collectionAt, List.forall_mem_nil _⟩

/-- Every result of a library function has the declared type. -/
theorem sound_table : ∀ f ∈ table, f.Sound := by
  intro f hf
  -- the table is made of parts, one for each group of functions
  simp only [table, List.mem_append] at hf
  rcases hf with ((((((((((( h | h) | h) | h) | h) | h) | h) | h) | h) | h) | h) | h)
  · exact sound_of_gives (gives_accessorsTable f h)
  · exact sound_of_gives (gives_diagnosticsTable f h)
  · exact sound_of_gives (gives_numbersTable f h)
  · exact sound_of_gives (gives_stringsTable f h)
  · exact sound_of_gives (gives_booleansTable f h)
  · exact sound_of_gives (gives_durationsTable f h)
  · exact sound_of_gives (gives_datesTable f h)
  · exact sound_of_gives (gives_namesTable f h)
  · exact sound_of_gives (gives_nodesTable f h)
  · exact sound_sequencesTable f h
  · exact sound_of_gives (gives_contextsTable f h)
  · exact sound_of_gives (gives_constructorsTable f h)

/-- Whatever a function of the library is called with, if its arguments have been converted and it
gives a result, the number of items is one that the declared type allows, and every item fits it. -/
theorem result_hasSequence {f : LibraryFunction} (hf : f ∈ table) {call : Call}
    {given args : List Sequence} {result : Sequence}
    (hargs : f.signature.convertArguments given = .ok args)
    (hresult : f.body call args = .ok result) : f.signature.result.hasSequence result = true :=
  sound_table f hf call given args hargs result hresult

/-- The sum of nothing, where the second argument says what that is. -/
theorem result_hasSequence_sample :
    let call : Call := ⟨.function "sum", .initial signatures,
      .initial ⟨⟨.epoch, .midnight⟩, some .utc⟩ .utc, none, .codepoint⟩
    let f := function "sum" (.between 1 2) [many .anyAtomic, opt .anyAtomic] (opt .anyAtomic) sumOf
    let args : List Sequence := [[], [.string "none"]]
    f ∈ table ∧ f.signature.convertArguments args = .ok args ∧
      f.body call args = .ok [.string "none"] ∧
      f.signature.result.hasSequence [.string "none"] = true := by
  intro call f args
  have hf : f ∈ table := by
    simp only [table, List.mem_append]
    have h : f ∈ sequencesTable := List.mem_of_getElem? (i := 17) rfl
    simp [h]
  exact ⟨hf, rfl, rfl, @result_hasSequence f hf call args args _ rfl rfl⟩

end Library

end XPath
