import XPath.Function.Arguments
import XPath.Proofs.Types.Casting

/-!
# Converted arguments

The conversion of arguments gives as many arguments as it takes, and each of them has the type of
its parameter: the number of items is allowed, and every item fits.  Converted arguments are a fixed
point, so to convert them once more changes nothing.

Whether an item fits is not the same as being left alone.  An untyped value fits a parameter of the
abstract root type, but its conversion is a cast to that root, which fails.
-/

namespace XPath

/-! ## 1. What has the type of a parameter -/

/-- Whether an item fits a parameter: a node for nodes, a value for any values, a number for
numbers, and for one type a value of that type or of one derived from it. -/
def ParameterItem.hasItem (p : ParameterItem) (i : Item) : Bool :=
  match p, i with
  | item, _ => true
  | node, .node _ => true
  | anyAtomic, .atomic _ => true
  | atomic t, .atomic v => v.type.derivesFrom t
  | numeric, .atomic v => v.type.isNumeric
  | _, _ => false

/-- Whether a sequence has the type of a parameter. -/
def ParameterType.hasSequence (p : ParameterType) (s : Sequence) : Bool :=
  p.occurrence.allows s.length && s.all p.item.hasItem

theorem ParameterType.hasSequence_iff {p : ParameterType} {s : Sequence} :
    p.hasSequence s = true ↔
      p.occurrence.allows s.length = true ∧ ∀ i ∈ s, p.item.hasItem i = true := by
  rw [hasSequence, Bool.and_eq_true, List.all_eq_true]

namespace ParameterItem

/-! ## 2. Values -/

variable {t : AtomicType} {v : Atomic}

theorem convertTo_of_type (ht : t ≠ .anyAtomic) (h : v.type = t) : convertTo t v = .ok v := by
  unfold convertTo
  split
  · exact Atomic.cast_of_type v t none ht h
  · rw [h, AtomicType.derivesFrom_refl, if_pos rfl]

theorem convertTo_of_derivesFrom (hv : v.type ≠ .untypedAtomic) (h : v.type.derivesFrom t = true) :
    convertTo t v = .ok v := by
  unfold convertTo
  rw [if_neg (by simpa using hv), if_pos h]

/-- Nothing is cast to the root; any other cast gives a value of the target, which is left alone. -/
theorem cast_settles (t : AtomicType) (v : Atomic) :
    Ensures (v.cast t none) fun w => w.type.derivesFrom t = true ∧ convertTo t w = .ok w := by
  by_cases ht : t = .anyAtomic
  · subst ht
    exact ensures_error
  · refine (Atomic.type_cast v t none).mono fun w hw => ⟨?_, convertTo_of_type ht hw⟩
    rw [hw, AtomicType.derivesFrom_refl]

/-- A converted value has the type, and it stays what it is. -/
theorem convertTo_settles (t : AtomicType) (v : Atomic) :
    Ensures (convertTo t v) fun w => w.type.derivesFrom t = true ∧ convertTo t w = .ok w := by
  rw [convertTo.eq_def t v, ensures_ite]
  refine ⟨fun _ => cast_settles t v, fun huntyped => ?_⟩
  rw [ensures_ite]
  refine ⟨fun h => ?_, fun _ => ?_⟩
  · rw [ensures_ok]
    exact ⟨h, convertTo_of_derivesFrom (by simpa using huntyped) h⟩
  · split
    · exact cast_settles _ _
    · exact cast_settles _ _
    · exact ensures_ok.mpr ⟨rfl, rfl⟩
    · exact ensures_error

theorem isNumeric_type (n : Numeric) : n.type.isNumeric = true := by
  cases n <;> rfl

theorem convertToNumeric_of_isNumeric (h : v.type.isNumeric = true) :
    convertToNumeric v = .ok v := by
  cases v with
  | numeric n => rfl
  | gregorian g =>
    rcases g with ⟨kind, _, _⟩
    cases kind <;> cases h
  | _ => cases h

theorem convertToNumeric_settles (v : Atomic) :
    Ensures (convertToNumeric v) fun w =>
      w.type.isNumeric = true ∧ convertToNumeric w = .ok w := by
  have hsettles : ∀ w : Atomic, w.type.isNumeric = true →
      w.type.isNumeric = true ∧ convertToNumeric w = .ok w :=
    fun w hw => ⟨hw, convertToNumeric_of_isNumeric hw⟩
  rw [convertToNumeric.eq_def v]
  split
  · refine (Atomic.type_cast _ _ _).mono fun w hw => hsettles w ?_
    rw [hw]
    rfl
  · exact ensures_ok.mpr (hsettles _ (isNumeric_type _))
  · exact ensures_error

/-! ## 3. Items -/

variable {f : Atomic → Result Atomic} {P : Atomic → Prop} {s : Sequence}

/-- Values that are left alone one by one are so together. -/
theorem convertEach_eq_self (h : ∀ i ∈ s, ∃ v, i = .atomic v ∧ f v = .ok v) :
    convertEach f s = .ok s := by
  induction s with
  | nil => rfl
  | cons i s ih =>
    rcases h i List.mem_cons_self with ⟨v, rfl, hv⟩
    have hs : (Sequence.atomize s).mapM (fun v => (f v).map Item.atomic) = .ok s :=
      ih fun j hj => h j (List.mem_cons_of_mem _ hj)
    -- an atomic value is its own typed value
    show (v :: Sequence.atomize s).mapM (fun v => (f v).map Item.atomic) = _
    rw [List.mapM_cons, hv, hs]
    rfl

theorem convertEach_settles (h : ∀ v, Ensures (f v) fun w => P w ∧ f w = .ok w) (s : Sequence) :
    Ensures (convertEach f s) fun out =>
      (∀ i ∈ out, ∃ v, i = .atomic v ∧ P v) ∧ convertEach f out = .ok out := by
  have hitems : Ensures (convertEach f s) fun out =>
      ∀ i ∈ out, ∃ v, i = .atomic v ∧ P v ∧ f v = .ok v := by
    refine ensures_mapM fun v _ => ensures_except_map.mpr ?_
    exact (h v).mono fun w hw => ⟨w, rfl, hw⟩
  refine hitems.mono fun out hout => ⟨fun i hi => ?_, convertEach_eq_self fun i hi => ?_⟩
  · rcases hout i hi with ⟨v, rfl, hP, _⟩
    exact ⟨v, rfl, hP⟩
  · rcases hout i hi with ⟨v, rfl, _, hv⟩
    exact ⟨v, rfl, hv⟩

theorem convertItems_settles (p : ParameterItem) (s : Sequence) :
    Ensures (p.convertItems s) fun out =>
      (∀ i ∈ out, p.hasItem i = true) ∧ p.convertItems out = .ok out := by
  cases p with
  | item => exact ensures_ok.mpr ⟨fun _ _ => rfl, rfl⟩
  | node =>
    rw [convertItems.eq_def _ s]
    dsimp only
    split
    · exact ensures_error
    · rename_i hnone
      refine ensures_ok.mpr ⟨fun i hi => ?_, ?_⟩
      · cases i with
        | node n => rfl
        | atomic v =>
          have h := List.findSome?_eq_none_iff.mp hnone _ hi
          cases h
      · simp only [convertItems, hnone]
  | anyAtomic =>
    have hsettles := convertEach_settles (P := fun _ => True)
      (fun v => ensures_ok.mpr ⟨trivial, rfl⟩) s
    refine hsettles.mono fun out hout => ⟨fun i hi => ?_, hout.2⟩
    rcases hout.1 i hi with ⟨v, rfl, _⟩
    rfl
  | atomic t =>
    refine (convertEach_settles (convertTo_settles t) s).mono fun out hout =>
      ⟨fun i hi => ?_, hout.2⟩
    rcases hout.1 i hi with ⟨v, rfl, hv⟩
    exact hv
  | numeric =>
    refine (convertEach_settles convertToNumeric_settles s).mono fun out hout =>
      ⟨fun i hi => ?_, hout.2⟩
    rcases hout.1 i hi with ⟨v, rfl, hv⟩
    exact hv

end ParameterItem

/-! ## 4. Arguments -/

theorem ParameterType.convert_settles (p : ParameterType) (s : Sequence) :
    Ensures (p.convert s) fun out => p.hasSequence out = true ∧ p.convert out = .ok out := by
  rw [convert.eq_def p s, ensures_bind]
  refine (p.item.convertItems_settles s).mono fun out hout => ?_
  rcases hout with ⟨hitems, hself⟩
  rw [ensures_ite]
  refine ⟨fun hlength => ensures_pure.mpr ⟨hasSequence_iff.mpr ⟨hlength, hitems⟩, ?_⟩,
    fun _ => ensures_error⟩
  rw [convert, hself]
  show (if _ then _ else _) = _
  rw [if_pos hlength]
  rfl

namespace Signature

/-- The parameter of an argument: the one of the same number or, if there is no limit to the number
of arguments, the last one for all that follow. -/
def HasParameter (s : Signature) (i : Nat) (p : ParameterType) : Prop :=
  s.parameters[i]? = some p ∨
    s.arity.most = none ∧ s.parameters.length ≤ i ∧ s.parameters.getLast? = some p

variable {s : Signature} {i : Nat} {p : ParameterType} {args out : List Sequence}

theorem hasParameter_iff : s.HasParameter i p ↔ s.parameter? i = some p := by
  unfold HasParameter parameter?
  cases h : s.parameters[i]? with
  | some q =>
    have hlt : i < s.parameters.length := (List.getElem?_eq_some_iff.mp h).1
    refine ⟨fun hp => ?_, Or.inl⟩
    rcases hp with hp | ⟨_, hle, _⟩
    · exact hp
    · omega
  | none =>
    have hle : s.parameters.length ≤ i := List.getElem?_eq_none_iff.mp h
    cases hmost : s.arity.most with
    | none => simp [hle]
    | some m => simp

/-- The arguments from number `i` on have the types of their parameters. -/
def Fits (s : Signature) (i : Nat) (args : List Sequence) : Prop :=
  ∀ j p arg, s.HasParameter (i + j) p → args[j]? = some arg → p.hasSequence arg = true

theorem convertArgument_settles (s : Signature) (i : Nat) (arg : Sequence) :
    Ensures (s.convertArgument i arg) fun out =>
      (∀ p, s.HasParameter i p → p.hasSequence out = true) ∧
        s.convertArgument i out = .ok out := by
  simp only [hasParameter_iff, convertArgument]
  cases h : s.parameter? i with
  | none => exact ensures_ok.mpr ⟨fun p hp => (by cases hp), rfl⟩
  | some p =>
    rw [ensures_mapError]
    refine (p.convert_settles arg).mono fun out hout => ⟨fun q hq => ?_, ?_⟩
    · cases hq
      exact hout.1
    · show (p.convert out).mapError _ = _
      rw [hout.2]
      rfl

theorem fits_cons {arg : Sequence} :
    s.Fits i (arg :: args) ↔
      (∀ p, s.HasParameter i p → p.hasSequence arg = true) ∧ s.Fits (i + 1) args := by
  have hnext (j : Nat) : i + 1 + j = i + (j + 1) := Nat.add_right_comm i 1 j
  refine ⟨fun h => ⟨fun p hp => h 0 p arg hp rfl, fun j p a hp ha => ?_⟩, ?_⟩
  · rw [hnext] at hp
    exact h (j + 1) p a hp ha
  · intro h j p a hp ha
    rcases h with ⟨hfirst, hrest⟩
    cases j with
    | zero =>
      cases ha
      exact hfirst p hp
    | succ j =>
      rw [← hnext] at hp
      exact hrest j p a hp ha

theorem convertFrom_settles (s : Signature) (i : Nat) (args : List Sequence) :
    Ensures (s.convertFrom i args) fun out =>
      out.length = args.length ∧ s.Fits i out ∧ s.convertFrom i out = .ok out := by
  induction args generalizing i with
  | nil => exact ensures_ok.mpr ⟨rfl, fun j p arg _ h => (by cases h), rfl⟩
  | cons arg rest ih =>
    rw [convertFrom, ensures_bind]
    refine (s.convertArgument_settles i arg).mono fun first hsettled => ?_
    rcases hsettled with ⟨hfirst, hself⟩
    rw [ensures_bind]
    refine (ih (i + 1)).mono fun others hsettled => ensures_pure.mpr ?_
    rcases hsettled with ⟨hlength, hfits, hselves⟩
    refine ⟨congrArg (· + 1) hlength, fits_cons.mpr ⟨hfirst, hfits⟩, ?_⟩
    rw [convertFrom, hself]
    show s.convertFrom (i + 1) others >>= _ = _
    rw [hselves]
    rfl

/-- What the arguments of a call become: as many of them, each with the type of its parameter, and
all of them converted for good. -/
structure Converted (s : Signature) (args out : List Sequence) : Prop where
  length_eq : out.length = args.length
  fits : ∀ i p arg, s.HasParameter i p → out[i]? = some arg → p.hasSequence arg = true
  again : s.convertArguments out = .ok out

theorem converted_of_convertArguments (h : s.convertArguments args = .ok out) :
    s.Converted args out := by
  rcases s.convertFrom_settles 0 args out h with ⟨hlength, hfits, hself⟩
  refine ⟨hlength, fun i p arg hp harg => ?_, hself⟩
  exact hfits i p arg (by rwa [Nat.zero_add]) harg

/-- An integer for an xs:double, a URI for an xs:string and then, as there is no limit, an untyped
value for one more xs:string. -/
theorem converted_of_convertArguments_sample :
    let s : Signature := ⟨.function "f", .atLeast 2, [⟨.atomic .double, .one⟩,
      ⟨.atomic .string, .zeroOrOne⟩], ⟨.item, .zeroOrMore⟩⟩
    let args : List Sequence :=
      [[.integer 3], [.atomic (.anyURI "http://x")], [.atomic (.untyped "y")]]
    let out : List Sequence :=
      [[.atomic (.double (Number.doubleOfInt 3))], [.string "http://x"], [.string "y"]]
    s.convertArguments args = .ok out ∧ s.Converted args out := by
  intro s args out
  have h : s.convertArguments args = .ok out := rfl
  exact ⟨h, converted_of_convertArguments h⟩

end Signature

end XPath
