import Mathlib.Data.List.Forall2
import Mathlib.Data.List.Perm.Basic
import XPath.Library.DeepEqual
import XPath.Proofs.Aggregates.Scan

/-!
# The greatest and the least value

Before the scan, untyped values become doubles, numbers get one type if there is nothing else, and
URIs become strings if there are strings.  None of this depends on the order of the values, so the
functions for the greatest and the least value depend on it just where the scan does: where a NaN
stands among values of another kind.
-/

namespace XPath

namespace Aggregate

variable {f : String} {op : Comparison} {c : Collation} {tz : TimeZone} {v : Atomic}
  {l : List Atomic}

/-! ## 1. Numbers and texts of one type -/

/-- Bounds of the greatest of some numbers are bounds of all. -/
theorem foldl_max_le_iff (ns : List Nat) (a x : Nat) :
    ns.foldl max a ≤ x ↔ a ≤ x ∧ ∀ y ∈ ns, y ≤ x := by
  induction ns generalizing a with
  | nil => simp
  | cons y ns ih => simp [ih, and_assoc]

/-- The rank of the widest type of some numbers. -/
def widest (ns : List Numeric) : Nat := (ns.map Numeric.rank).foldl max 0

theorem widest_le_iff {ns : List Numeric} {x : Nat} : widest ns ≤ x ↔ ∀ n ∈ ns, n.rank ≤ x := by
  rw [widest, foldl_max_le_iff]
  simp

theorem widest_perm {ns ns' : List Numeric} (h : ns'.Perm ns) : widest ns' = widest ns := by
  refine le_antisymm (widest_le_iff.mpr fun n hn => ?_) (widest_le_iff.mpr fun n hn => ?_)
  · exact widest_le_iff.mp le_rfl n (h.mem_iff.mp hn)
  · exact widest_le_iff.mp le_rfl n (h.mem_iff.mpr hn)

theorem mapM_eq_ok_iff {α β : Type} {g : α → Result β} {s : List α} {t : List β} :
    s.mapM g = .ok t ↔ List.Forall₂ (fun a b => g a = .ok b) s t := by
  induction s generalizing t with
  | nil =>
    rw [List.forall₂_nil_left_iff, List.mapM_nil]
    exact ⟨fun h => (Except.ok.inj h).symm, fun h => h ▸ rfl⟩
  | cons a s ih =>
    rw [List.mapM_cons]
    refine bind_eq_ok.trans ⟨?_, ?_⟩
    · rintro ⟨b, hb, h⟩
      rcases bind_eq_ok.mp h with ⟨t', ht', h⟩
      cases h
      exact .cons hb (ih.mp ht')
    · rintro (_ | ⟨hb, ht⟩)
      exact ⟨_, hb, bind_eq_ok.mpr ⟨_, ih.mpr ht, rfl⟩⟩

/-- Lists that are related element by element can be reordered together. -/
theorem exists_perm_of_forall₂ {α β : Type} {R : α → β → Prop} {s : List α} {t t' : List β}
    (h : List.Forall₂ R s t) (ht : t'.Perm t) : ∃ s', s'.Perm s ∧ List.Forall₂ R s' t' := by
  have hcomp : Relation.Comp (List.Forall₂ R) List.Perm s t' := ⟨t, h, ht.symm⟩
  rw [List.forall₂_comp_perm_eq_perm_comp_forall₂] at hcomp
  rcases hcomp with ⟨s', hs, h'⟩
  exact ⟨s', hs.symm, h'⟩

/-- The numbers of a list of numbers, in the widest of their types. -/
theorem unifyNumbers_numbers (ns : List Numeric) :
    unifyNumbers (ns.map .numeric) =
      ns.mapM fun n => (n.promote (widest ns)).map Atomic.numeric := by
  have hnumbers : (ns.map Atomic.numeric).mapM Atomic.numeric? = some ns := by
    rw [List.mapM_map]
    exact List.mapM_pure.trans (congrArg some (List.map_id ns))
  rw [unifyNumbers, hnumbers]
  rfl

theorem unifyNumbers_mixed (h : ∃ v ∈ l, v.numeric? = none) : unifyNumbers l = .ok l := by
  have hnone : l.mapM Atomic.numeric? = none := by
    rcases h with ⟨v, hv, hnone⟩
    induction l with
    | nil => cases hv
    | cons w l ih =>
      rw [List.mapM_cons]
      rcases List.mem_cons.mp hv with rfl | hv
      · rw [hnone]
        rfl
      · rw [ih hv]
        cases w.numeric? <;> rfl
  rw [unifyNumbers, hnone]

/-- A URI as a string if there are strings. -/
def asUnified (strings : Bool) : Atomic → Atomic
  | .anyURI s => if strings then .string s else .anyURI s
  | v => v

theorem unifyStrings_eq (l : List Atomic) :
    unifyStrings l = l.map (asUnified (l.any (·.type == .string))) := by
  rw [unifyStrings]
  cases l.any (·.type == .string) with
  | true => rfl
  | false =>
    have hid : asUnified false = id := by
      funext v
      cases v <;> rfl
    rw [hid, List.map_id]
    rfl

theorem numeric?_asUnified (b : Bool) (v : Atomic) : (asUnified b v).numeric? = v.numeric? := by
  cases v with
  | anyURI s => cases b <;> rfl
  | _ => rfl

theorem orderClass?_asUnified (b : Bool) (v : Atomic) :
    (asUnified b v).orderClass? tz = v.orderClass? tz := by
  cases v with
  | anyURI s => cases b <;> rfl
  | _ => rfl

theorem mixesNaN_map_asUnified (b : Bool) :
    MixesNaN tz (l.map (asUnified b)) ↔ MixesNaN tz l := by
  simp [MixesNaN, Atomic.isNaN, numeric?_asUnified, orderClass?_asUnified]

/-- Where not all values are numbers, only texts are unified. -/
theorem extreme_mixed (h : ∃ v ∈ l, v.numeric? = none) : extreme f op l c tz =
    scan f op c tz (l.map (asUnified (l.any (·.type == .string)))) := by
  rw [extreme_eq, unifyNumbers_mixed h, ← unifyStrings_eq]
  rfl

/-! ## 2. The order of the input -/

/-- The result as a sequence. -/
def asSequence (o : Option Atomic) : Sequence := (o.map Item.atomic).toList

theorem sequences_asSequence {m m' : Atomic} (h : m.equal m' c tz true = true) :
    DeepEquality.sequences ⟨c, tz⟩ (asSequence (some m)) (asSequence (some m')) = true := by
  show (true && (DeepEquality.values ⟨c, tz⟩ m m' && true)) = true
  rw [Bool.and_true, Bool.true_and]
  exact h

theorem equal_of_compare {m m' : Atomic} (h : Atomic.compare .eq m m' c tz = .ok true) :
    m.equal m' c tz true = true := by
  unfold Atomic.equal
  rw [h]
  cases m <;> cases m' <;> first | rfl | exact ite_self _

theorem equal_of_isNaN {m m' : Atomic} (hm : m.isNaN = true) (hm' : m'.isNaN = true) :
    m.equal m' c tz true = true := by
  rcases Atomic.exists_numeric_of_isNaN hm with ⟨n, rfl, hn⟩
  rcases Atomic.exists_numeric_of_isNaN hm' with ⟨n', rfl, hn'⟩
  show (if n.isNaN && n'.isNaN then true else _) = true
  rw [hn, hn']
  rfl

/-- Scans of ordered values that are reordered give equal results. -/
theorem scan_perm_of_isOrdered (hop : op = .lt ∨ op = .gt) (h : Atomic.IsOrdered c tz l)
    (hnan : ∀ v ∈ l, v.isNaN = false) {l' : List Atomic} (hperm : l'.Perm l) :
    ∃ o o', scan f op c tz l = .ok o ∧ scan f op c tz l' = .ok o' ∧
      DeepEquality.sequences ⟨c, tz⟩ (asSequence o) (asSequence o') = true := by
  rcases scan_of_isOrdered (f := f) hop h hnan hperm with ⟨rfl, rfl⟩ | ⟨m, m', hm, hm', heq⟩
  · exact ⟨none, none, rfl, rfl, rfl⟩
  · exact ⟨some m, some m', hm, hm', sequences_asSequence (equal_of_compare heq)⟩

theorem exists_numbers (h : ∀ v ∈ l, v.numeric? ≠ none) :
    ∃ ns : List Numeric, l = ns.map .numeric := by
  induction l with
  | nil => exact ⟨[], rfl⟩
  | cons v l ih =>
    rcases ih fun w hw => h w (List.mem_cons_of_mem _ hw) with ⟨ns, rfl⟩
    cases v with
    | numeric n => exact ⟨n :: ns, rfl⟩
    | _ => exact absurd rfl (h _ List.mem_cons_self)

/-- Promoted numbers are all of the widest type. -/
theorem hasRank_of_mapM {ns : List Numeric} {u : List Atomic}
    (h : (ns.mapM fun n => (n.promote (widest ns)).map Atomic.numeric) = .ok u) :
    ∀ v ∈ u, v.HasRank (widest ns) := by
  have hrank : ∀ n ∈ ns, Ensures ((n.promote (widest ns)).map Atomic.numeric)
      (Atomic.HasRank (widest ns)) := by
    intro n hn
    rw [ensures_except_map]
    intro m hm
    refine ⟨m, rfl, Numeric.rank_promote (widest_le_iff.mp le_rfl n hn) ?_ hm⟩
    exact widest_le_iff.mpr fun n _ => n.rank_le
  exact ensures_mapM hrank u h

theorem unifyStrings_of_hasRank {k : Nat} (h : ∀ v ∈ l, v.HasRank k) : unifyStrings l = l := by
  have hid : ∀ b, ∀ v ∈ l, asUnified b v = id v := by
    intro b v hv
    rcases h v hv with ⟨n, rfl, -⟩
    rfl
  rw [unifyStrings_eq, List.map_congr_left (hid _), List.map_id]

/-- Numbers that are reordered have equal extremes. -/
theorem extreme_perm_of_numbers (hop : op = .lt ∨ op = .gt) {ns ns' : List Numeric}
    {o : Option Atomic} (hperm : ns'.Perm ns)
    (h : extreme f op (ns.map .numeric) c tz = .ok o) :
    ∃ o', extreme f op (ns'.map .numeric) c tz = .ok o' ∧
      DeepEquality.sequences ⟨c, tz⟩ (asSequence o) (asSequence o') = true := by
  rw [extreme_eq, unifyNumbers_numbers] at h
  rcases bind_eq_ok.mp h with ⟨u, hu, hscan⟩
  -- the promoted numbers are reordered as the numbers are
  rcases List.perm_comp_forall₂ hperm (mapM_eq_ok_iff.mp hu) with ⟨u', hu', huperm⟩
  have hrank := hasRank_of_mapM hu
  have hrank' : ∀ v ∈ u', v.HasRank (widest ns) := fun v hv => hrank v (huperm.mem_iff.mp hv)
  have hextreme : extreme f op (ns'.map .numeric) c tz = scan f op c tz u' := by
    rw [extreme_eq, unifyNumbers_numbers, widest_perm hperm, mapM_eq_ok_iff.mpr hu']
    show scan f op c tz (unifyStrings u') = _
    rw [unifyStrings_of_hasRank hrank']
  rw [unifyStrings_of_hasRank hrank] at hscan
  rw [hextreme]
  -- a NaN is the extreme in every order, and without one the numbers are ordered
  by_cases hnan : ∃ v ∈ u, v.isNaN = true
  · have hnan' : ∃ v ∈ u', v.isNaN = true :=
      hnan.imp fun v hv => ⟨huperm.mem_iff.mpr hv.1, hv.2⟩
    have hends : ∀ {t : List Atomic}, (∀ v ∈ t, v.HasRank (widest ns)) →
        (∃ v ∈ t, v.isNaN = true) →
        ∃ m : Atomic, m.isNaN = true ∧ scan f op c tz t = .ok (some m) := scan_of_isNaN hop
    rcases hends hrank hnan with ⟨m, hm, hok⟩
    rcases hends hrank' hnan' with ⟨m', hm', hok'⟩
    rw [hok] at hscan
    cases hscan
    exact ⟨some m', hok', sequences_asSequence (equal_of_isNaN hm hm')⟩
  · have hno : ∀ v ∈ u, v.isNaN = false := fun v hv =>
      Bool.eq_false_iff.mpr fun hv' => hnan ⟨v, hv, hv'⟩
    have hordered : Atomic.IsOrdered c tz u := Atomic.isOrdered_of_hasRank hrank hno
    rcases scan_perm_of_isOrdered (f := f) hop hordered hno huperm with ⟨o₁, o', hok, hok', heq⟩
    rw [hok] at hscan
    cases hscan
    exact ⟨o', hok', heq⟩

/-- Without a NaN, values that are not all numbers have equal extremes in every order; with a NaN
there is none if the others do not compare. -/
theorem extreme_perm_of_mixed (hop : op = .lt ∨ op = .gt) (hmixed : ∃ v ∈ l, v.numeric? = none)
    (hmix : ¬MixesNaN tz l) {l' : List Atomic} {o : Option Atomic} (hperm : l'.Perm l)
    (h : extreme f op l c tz = .ok o) :
    ∃ o', extreme f op l' c tz = .ok o' ∧
      DeepEquality.sequences ⟨c, tz⟩ (asSequence o) (asSequence o') = true := by
  have hmixed' : ∃ v ∈ l', v.numeric? = none :=
    hmixed.imp fun v hv => ⟨hperm.mem_iff.mpr hv.1, hv.2⟩
  rw [extreme_mixed hmixed] at h
  rw [extreme_mixed hmixed', hperm.any_eq]
  rw [← mixesNaN_map_asUnified (l.any (·.type == .string))] at hmix
  have huperm := hperm.map (asUnified (l.any (·.type == .string)))
  have humixed : ∃ v ∈ l.map (asUnified (l.any (·.type == .string))), v.numeric? = none := by
    rcases hmixed with ⟨v, hv, hnone⟩
    exact ⟨_, List.mem_map_of_mem hv, (numeric?_asUnified _ v).trans hnone⟩
  generalize l.map (asUnified (l.any (·.type == .string))) = u at *
  generalize l'.map (asUnified (l.any (·.type == .string))) = u' at *
  -- the scan has put all values but numbers into one kind, so a NaN would be mixed with them
  rcases orderClass?_of_scan hop h with ⟨k, hk⟩
  have hother : ∀ v ∈ u, v.numeric? = none → v.orderClass? tz = some k := by
    intro v hv hnone
    rcases hk v hv with hv | ⟨hsome, -⟩
    · exact hv
    · rw [hnone] at hsome
      cases hsome
  have hno : ∀ v ∈ u, v.isNaN = false := fun v hv =>
    Bool.eq_false_iff.mpr fun hnan => hmix ⟨⟨v, hv, hnan⟩, humixed, k, hother⟩
  have hclass : ∀ v ∈ u, v.orderClass? tz = some k := by
    intro v hv
    rcases hk v hv with hv | ⟨-, w, hw, hnan⟩
    · exact hv
    · rw [hno w hw] at hnan
      cases hnan
  have hne : k ≠ .number := by
    rintro rfl
    rcases humixed with ⟨v, hv, hnone⟩
    exact Atomic.orderClass?_ne_number hnone (hclass v hv)
  rcases scan_perm_of_isOrdered (f := f) hop (Atomic.isOrdered_of_orderClass? hne hclass) hno huperm
    with ⟨o₁, o', hok, hok', heq⟩
  rw [hok] at h
  cases h
  exact ⟨o', hok', heq⟩

/-- The order of values does not matter, unless a NaN stands among values of another kind. -/
theorem extreme_perm (hop : op = .lt ∨ op = .gt) (hmix : ¬MixesNaN tz l) {l' : List Atomic}
    {o : Option Atomic} (hperm : l'.Perm l) (h : extreme f op l c tz = .ok o) :
    ∃ o', extreme f op l' c tz = .ok o' ∧
      DeepEquality.sequences ⟨c, tz⟩ (asSequence o) (asSequence o') = true := by
  by_cases hmixed : ∃ v ∈ l, v.numeric? = none
  · exact extreme_perm_of_mixed hop hmixed hmix hperm h
  · have hnumbers : ∀ v ∈ l, v.numeric? ≠ none := fun v hv hnone => hmixed ⟨v, hv, hnone⟩
    rcases exists_numbers hnumbers with ⟨ns, rfl⟩
    rcases exists_numbers fun v hv => hnumbers v (hperm.mem_iff.mp hv) with ⟨ns', rfl⟩
    have hinj : Function.Injective Atomic.numeric := fun _ _ => Atomic.numeric.inj
    exact extreme_perm_of_numbers hop ((List.map_perm_map_iff hinj).mp hperm) h

/-- If a NaN stands among values of another kind, some orders have an extreme and some have none. -/
theorem exists_extreme_orders (f : String) (c : Collation) (hop : op = .lt ∨ op = .gt)
    (hmix : MixesNaN tz l) :
    (∃ l', l'.Perm l ∧ ∃ o, extreme f op l' c tz = .ok o) ∧
      ∃ l', l'.Perm l ∧ ∀ o, extreme f op l' c tz ≠ .ok o := by
  have hmixed := hmix.2.1
  -- every order of the unified values comes from an order of the values
  have hextreme : ∀ u' : List Atomic,
      u'.Perm (l.map (asUnified (l.any (·.type == .string)))) →
      ∃ l', l'.Perm l ∧ extreme f op l' c tz = scan f op c tz u' := by
    intro u' hu'
    have hmap : List.Forall₂ (fun v w => asUnified (l.any (·.type == .string)) v = w) l
        (l.map (asUnified (l.any (·.type == .string)))) := by
      rw [List.forall₂_map_right_iff]
      exact List.forall₂_same.mpr fun _ _ => rfl
    rcases exists_perm_of_forall₂ hmap hu' with ⟨l', hl', hmap'⟩
    have hlu : l'.map (asUnified (l.any (·.type == .string))) = u' := by
      rw [← List.forall₂_eq_eq_eq, List.forall₂_map_left_iff]
      exact hmap'
    refine ⟨l', hl', ?_⟩
    rw [extreme_mixed (hmixed.imp fun v hv => ⟨hl'.mem_iff.mpr hv.1, hv.2⟩), hl'.any_eq, hlu]
  rw [← mixesNaN_map_asUnified (l.any (·.type == .string))] at hmix
  refine ⟨?_, ?_⟩
  · rcases exists_scan_ok f c hop hmix with ⟨u', hu', o, ho⟩
    rcases hextreme u' hu' with ⟨l', hl', he⟩
    exact ⟨l', hl', o, he.trans ho⟩
  · rcases exists_scan_error f c hop hmix with ⟨u', hu', ho⟩
    rcases hextreme u' hu' with ⟨l', hl', he⟩
    exact ⟨l', hl', fun o h => ho o (he.symm.trans h)⟩

end Aggregate

/-! ## 3. The two functions -/

namespace Library

open Aggregate

/-- Whether both computations fail, or both succeed with equal results.  A NaN is equal to a NaN. -/
def SameOutcome (d : DeepEquality) (r s : Result Sequence) : Prop :=
  match r, s with
  | .ok a, .ok b => d.sequences a b = true
  | .error _, .error _ => True
  | _, _ => False

section Orders

variable {f : String} {op : Comparison} {c : Collation} {call : Call} {named : List Sequence}
  {vs ws l : List Atomic}

theorem input_atomics (vs : List Atomic) : input (vs.map Item.atomic) =
    vs.mapM fun v => if v.type == .untypedAtomic then v.cast .double none else .ok v := by
  rw [input, Sequence.atomize_map_atomic]

/-- The converted values are reordered as the values are. -/
theorem input_perm (hperm : ws.Perm vs) (h : input (vs.map Item.atomic) = .ok l) :
    ∃ l', l'.Perm l ∧ input (ws.map Item.atomic) = .ok l' := by
  rw [input_atomics, mapM_eq_ok_iff] at h
  rcases List.perm_comp_forall₂ hperm h with ⟨l', hl', hl⟩
  exact ⟨l', hl, by rw [input_atomics, mapM_eq_ok_iff]; exact hl'⟩

theorem exists_input_perm {l' : List Atomic} (h : input (vs.map Item.atomic) = .ok l)
    (hperm : l'.Perm l) : ∃ ws : List Atomic, ws.Perm vs ∧ input (ws.map Item.atomic) = .ok l' := by
  rw [input_atomics, mapM_eq_ok_iff] at h
  rcases exists_perm_of_forall₂ h hperm with ⟨ws, hws, h'⟩
  exact ⟨ws, hws, by rw [input_atomics, mapM_eq_ok_iff]; exact h'⟩

theorem extreme_eq_ok (hc : call.collationArgument ([] :: named) 1 = .ok c) {s : Sequence} :
    extreme f op call (vs.map Item.atomic :: named) = .ok s ↔
      ∃ l o, input (vs.map Item.atomic) = .ok l ∧
        Aggregate.extreme f op l c call.dynamic.timeZone = .ok o ∧ s = asSequence o := by
  have hc' : call.collationArgument (vs.map Item.atomic :: named) 1 = .ok c := hc
  rw [extreme, hc']
  refine bind_eq_ok.trans ⟨?_, ?_⟩
  · rintro ⟨_, hcc, h⟩
    cases hcc
    rcases bind_eq_ok.mp h with ⟨l, hl, h⟩
    rcases bind_eq_ok.mp h with ⟨o, ho, hs⟩
    exact ⟨l, o, hl, ho, (Except.ok.inj hs).symm⟩
  · rintro ⟨l, o, hl, ho, rfl⟩
    exact ⟨c, rfl, bind_eq_ok.mpr ⟨l, hl, bind_eq_ok.mpr ⟨o, ho, rfl⟩⟩⟩

theorem mixesNaN_perm {tz : TimeZone} {l' : List Atomic} (hperm : l'.Perm l) :
    MixesNaN tz l' ↔ MixesNaN tz l := by
  simp only [MixesNaN, hperm.mem_iff]

/-- One outcome of two computations of which each succeeds if the other does. -/
theorem sameOutcome_of_ok {d : DeepEquality} {r s : Result Sequence}
    (h : ∀ a, r = .ok a → ∃ b, s = .ok b ∧ d.sequences a b = true)
    (h' : ∀ b, s = .ok b → ∃ a, r = .ok a) : SameOutcome d r s := by
  cases r with
  | ok a =>
    rcases h a rfl with ⟨b, rfl, hab⟩
    exact hab
  | error e =>
    cases s with
    | ok b =>
      rcases h' b rfl with ⟨a, ha⟩
      cases ha
    | error e' => trivial

/-- The outcome for a sequence of values is that for every other order of the values exactly if no
NaN stands among values of another kind that compare with one another. -/
theorem sameOutcome_iff_not_mixesNaN (hop : op = .lt ∨ op = .gt)
    (hc : call.collationArgument ([] :: named) 1 = .ok c) (vs : List Atomic) :
    (∀ ws : List Atomic, ws.Perm vs → SameOutcome ⟨c, call.dynamic.timeZone⟩
      (extreme f op call (vs.map Item.atomic :: named))
      (extreme f op call (ws.map Item.atomic :: named))) ↔
    ∀ l, input (vs.map Item.atomic) = .ok l → ¬MixesNaN call.dynamic.timeZone l := by
  refine ⟨fun h l hl hmix => ?_, fun h ws hperm => ?_⟩
  · -- one of two orders succeeds, the other does not, and both have the outcome of the sequence
    rcases exists_extreme_orders f c hop hmix with ⟨⟨l₁, hl₁, o, ho⟩, l₂, hl₂, hfails⟩
    rcases exists_input_perm hl hl₁ with ⟨ws₁, hws₁, hin₁⟩
    rcases exists_input_perm hl hl₂ with ⟨ws₂, hws₂, hin₂⟩
    have hok : extreme f op call (ws₁.map Item.atomic :: named) = .ok (asSequence o) :=
      (extreme_eq_ok hc).mpr ⟨l₁, o, hin₁, ho, rfl⟩
    have h₁ := h ws₁ hws₁
    have h₂ := h ws₂ hws₂
    rw [hok] at h₁
    cases hvs : extreme f op call (vs.map Item.atomic :: named) with
    | error e =>
      rw [hvs] at h₁
      exact h₁
    | ok s =>
      rw [hvs] at h₂
      cases hws : extreme f op call (ws₂.map Item.atomic :: named) with
      | error e =>
        rw [hws] at h₂
        exact h₂
      | ok s₂ =>
        rcases (extreme_eq_ok hc).mp hws with ⟨l', o', hl', ho', -⟩
        rw [hin₂] at hl'
        cases hl'
        exact hfails o' ho'
  · have htransfer : ∀ {us us' : List Atomic}, us'.Perm us →
        (∀ l, input (us.map Item.atomic) = .ok l → ¬MixesNaN call.dynamic.timeZone l) →
        ∀ a, extreme f op call (us.map Item.atomic :: named) = .ok a →
          ∃ b, extreme f op call (us'.map Item.atomic :: named) = .ok b ∧
            DeepEquality.sequences ⟨c, call.dynamic.timeZone⟩ a b = true := by
      intro us us' hus hmix a ha
      rcases (extreme_eq_ok hc).mp ha with ⟨l, o, hl, ho, rfl⟩
      rcases input_perm hus hl with ⟨l', hl', hin⟩
      rcases extreme_perm hop (hmix l hl) hl' ho with ⟨o', ho', heq⟩
      exact ⟨_, (extreme_eq_ok hc).mpr ⟨l', o', hin, ho', rfl⟩, heq⟩
    refine sameOutcome_of_ok (htransfer hperm h) fun b hb => ?_
    have h' : ∀ l, input (ws.map Item.atomic) = .ok l → ¬MixesNaN call.dynamic.timeZone l := by
      intro l' hl'
      rcases input_perm hperm.symm hl' with ⟨l, hl, hin⟩
      rw [← mixesNaN_perm hl]
      exact h l hin
    rcases htransfer hperm.symm h' b hb with ⟨a, ha, -⟩
    exact ⟨a, ha⟩

end Orders

/-- The greatest and the least value do not depend on the order of the values, unless there is a
NaN, and there are others that are no numbers but compare with one another.  In this case both
functions succeed for some orders and fail for others: a NaN is taken as the best value without
being compared with the one before. -/
theorem greatest_least_order_iff (call : Call) (named : List Sequence) {c : Collation}
    (hc : call.collationArgument ([] :: named) 1 = .ok c) (vs : List Atomic) :
    ((∀ ws : List Atomic, ws.Perm vs → SameOutcome ⟨c, call.dynamic.timeZone⟩
        (greatest call (vs.map Item.atomic :: named))
        (greatest call (ws.map Item.atomic :: named))) ↔
      ∀ l, input (vs.map Item.atomic) = .ok l → ¬MixesNaN call.dynamic.timeZone l) ∧
    ((∀ ws : List Atomic, ws.Perm vs → SameOutcome ⟨c, call.dynamic.timeZone⟩
        (least call (vs.map Item.atomic :: named))
        (least call (ws.map Item.atomic :: named))) ↔
      ∀ l, input (vs.map Item.atomic) = .ok l → ¬MixesNaN call.dynamic.timeZone l) :=
  ⟨sameOutcome_iff_not_mixesNaN (.inr rfl) hc vs, sameOutcome_iff_not_mixesNaN (.inl rfl) hc vs⟩

/-- A call with the code point collation. -/
def sampleExtremeCall : Call where
  name := .function "max"
  static := .initial .empty
  dynamic := .initial ⟨⟨.epoch, .midnight⟩, some .utc⟩ .utc
  focus := none
  collation := .codepoint

/-- The greatest of two strings in either order. -/
theorem greatest_least_order_iff_sample :
    sampleExtremeCall.collationArgument [[]] 1 = .ok .codepoint ∧
      SameOutcome ⟨.codepoint, .utc⟩ (greatest sampleExtremeCall [[.string "a", .string "b"]])
        (greatest sampleExtremeCall [[.string "b", .string "a"]]) := by
  refine ⟨rfl, ?_⟩
  have hno : ∀ l, input ([Atomic.string "a", .string "b"].map Item.atomic) = .ok l →
      ¬MixesNaN .utc l := by
    intro l hl hmix
    have hl' : Except.ok [Atomic.string "a", .string "b"] = Except.ok (ε := Error) l := hl
    cases hl'
    rcases hmix.1 with ⟨v, hv, hnan⟩
    rcases List.mem_pair.mp hv with rfl | rfl <;> cases hnan
  exact (greatest_least_order_iff sampleExtremeCall [] rfl [.string "a", .string "b"]).1.mpr hno _
    (List.Perm.swap _ _ _)

/-- A string is accepted before a NaN, and rejected behind it. -/
theorem greatest_of_string_and_NaN :
    let text := Item.string "a"
    let nan := Item.atomic (.double Number.notANumber)
    greatest sampleExtremeCall [[text, nan]] = .ok [nan] ∧
      greatest sampleExtremeCall [[nan, text]] =
        .error (.aggregate "fn:max" (.string "a")) ∧
      ¬SameOutcome ⟨.codepoint, .utc⟩ (greatest sampleExtremeCall [[nan, text]])
        (greatest sampleExtremeCall [[text, nan]]) :=
  ⟨rfl, rfl, id⟩

end Library

end XPath
