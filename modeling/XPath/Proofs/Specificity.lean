import Mathlib.Data.List.Sort
import XPath.Proofs.Registration

/-!
# The most specific range

A call is made with the function whose range of arities covers the number of arguments and is more
specific than all other ranges that do: its least number is the highest and, among those, its limit
the lowest.  Where the ranges of a name differ there is one such function as soon as there is any,
and the order in which the functions were registered does not matter.
-/

namespace XPath

/-! ## 1. Ranges -/

namespace Arity

variable {a b : Arity} {n : Nat}

/-- The range contains a number of arguments. -/
def Covers (a : Arity) (n : Nat) : Prop := a.least ≤ n ∧ ∀ m, a.most = some m → n ≤ m

/-- `a` asks for more arguments than `b`, or it asks for as many and has a lower limit. The absence
of a limit counts as the largest one. -/
def MoreSpecific (a b : Arity) : Prop :=
  b.least < a.least ∨
    a.least = b.least ∧ ∃ m, a.most = some m ∧ ∀ k, b.most = some k → m < k

theorem accepts_iff : a.accepts n = true ↔ a.Covers n := by
  rcases a with ⟨l, _ | m⟩ <;> simp [accepts, Covers]

theorem mem_accepted_iff {k : Nat} : k ∈ a.accepted ↔ a.most ≠ none ∧ a.Covers k := by
  rcases a with ⟨l, _ | m⟩
  · simp [accepted]
  · simp only [accepted, Covers, List.mem_map, List.mem_range, Option.some.injEq, forall_eq', ne_eq,
      reduceCtorEq, not_false_eq_true, true_and]
    refine ⟨?_, ?_⟩
    · rintro ⟨i, hi, rfl⟩
      omega
    · intro hk
      exact ⟨k - l, by omega, by omega⟩

theorem specificOrSame_iff : a.specificOrSame b = true ↔ a = b ∨ a.MoreSpecific b := by
  rcases a with ⟨l, _ | m⟩ <;> rcases b with ⟨l', _ | m'⟩ <;>
    simp [specificOrSame, MoreSpecific] <;> omega

theorem MoreSpecific.asymm (h : a.MoreSpecific b) : ¬ b.MoreSpecific a := by
  rcases a with ⟨l, _ | m⟩ <;> rcases b with ⟨l', _ | m'⟩ <;> simp [MoreSpecific] at h ⊢ <;> omega

end Arity

/-! ## 2. One table -/

namespace FunctionTable

variable {α : Type} {t u : FunctionTable α} {name : ExpandedName} {n : Nat}

/-- No two functions with the name have the same range. -/
def Unambiguous (t : FunctionTable α) (name : ExpandedName) : Prop :=
  ((t.overloads name).map (·.1)).Nodup

/-- The function with the range `a` covers a call with `n` arguments, and all other ranges that do
are less specific. -/
def IsMostSpecific (t : FunctionTable α) (name : ExpandedName) (n : Nat) (a : Arity) (f : α) :
    Prop :=
  (name, a, f) ∈ t.entries ∧ a.Covers n ∧
    ∀ b g, (name, b, g) ∈ t.entries → b.Covers n → b ≠ a → a.MoreSpecific b

theorem IsMostSpecific.unique (h : t.Unambiguous name) {a b : Arity} {f g : α}
    (ha : t.IsMostSpecific name n a f) (hb : t.IsMostSpecific name n b g) : (a, f) = (b, g) := by
  -- of two ranges, not both are more specific than the other
  have hrange : a = b := by
    by_contra hne
    have hab := ha.2.2 b g hb.1 hb.2.1 (Ne.symm hne)
    exact hab.asymm (hb.2.2 a f ha.1 ha.2.1 hne)
  apply List.inj_on_of_nodup_map h
  · exact mem_overloads_iff.mpr ha.1
  · exact mem_overloads_iff.mpr hb.1
  · exact hrange

theorem isMostSpecific_of_mostSpecific {a : Arity} {f : α}
    (h : t.mostSpecific name n = .ok (a, f)) : t.IsMostSpecific name n a f := by
  have hfind := mostSpecific_toOption t name n
  rw [h] at hfind
  refine ⟨mem_of_mostSpecific h, ?_, ?_⟩
  · have haccepts := List.find?_some hfind.symm
    exact Arity.accepts_iff.mp haccepts
  · intro b g hb hcovers hne
    rw [bySpecificity] at hfind
    -- what stands first in the order comes before all others that the call could be made with
    have hle : a.specificOrSame b = true := by
      apply le_of_find?_mergeSort _ _ hfind.symm (mem_overloads_iff.mpr hb)
      · exact Arity.accepts_iff.mpr hcovers
      · exact fun _ _ _ => Arity.specificOrSame_trans
      · exact fun _ _ => Arity.specificOrSame_total _ _
    exact (Arity.specificOrSame_iff.mp hle).resolve_left (Ne.symm hne)

theorem mostSpecific_isOk_iff :
    (∃ e, t.mostSpecific name n = .ok e) ↔ ∃ a f, (name, a, f) ∈ t.entries ∧ a.Covers n := by
  refine ⟨?_, ?_⟩
  · rintro ⟨⟨a, f⟩, h⟩
    have hmost := isMostSpecific_of_mostSpecific h
    exact ⟨a, f, hmost.1, hmost.2.1⟩
  · rintro ⟨a, f, hmem, hcovers⟩
    apply mostSpecific_of_accepts
    exact ⟨a, List.mem_map.mpr ⟨_, hmem, rfl⟩, Arity.accepts_iff.mpr hcovers⟩

theorem mostSpecific_eq_ok_iff (h : t.Unambiguous name) {a : Arity} {f : α} :
    t.mostSpecific name n = .ok (a, f) ↔ t.IsMostSpecific name n a f := by
  refine ⟨isMostSpecific_of_mostSpecific, ?_⟩
  intro hmost
  rcases mostSpecific_isOk_iff.mpr ⟨a, f, hmost.1, hmost.2.1⟩ with ⟨⟨b, g⟩, hok⟩
  rw [hok, hmost.unique h (isMostSpecific_of_mostSpecific hok)]

/-! ## 3. Calls that are refused -/

/-- The numbers of arguments that the message of a refused call lists. -/
def available (t : FunctionTable α) (name : ExpandedName) : List Nat :=
  (acceptedBy (t.overloads name)).eraseDups

theorem mem_available_iff {k : Nat} :
    k ∈ t.available name ↔ ∃ a f, (name, a, f) ∈ t.entries ∧ a.most ≠ none ∧ a.Covers k := by
  simp only [available, acceptedBy, List.mem_eraseDups, List.mem_mergeSort, List.mem_flatMap,
    Prod.exists, mem_overloads_iff, Arity.mem_accepted_iff]

theorem pairwise_lt_eraseDups (l : List Nat) (h : l.Pairwise (· ≤ ·)) :
    l.eraseDups.Pairwise (· < ·) := by
  match l with
  | [] => simp
  | k :: l =>
    rw [List.pairwise_cons] at h
    rw [List.eraseDups_cons, List.pairwise_cons]
    refine ⟨?_, pairwise_lt_eraseDups _ (h.2.filter _)⟩
    -- what is left behind `k` is not below it, and `k` itself is taken out
    intro j hj
    rw [List.mem_eraseDups, List.mem_filter] at hj
    have hle := h.1 j hj.1
    have hne : j ≠ k := by simpa using hj.2
    omega
termination_by l.length
decreasing_by
  have hlength := List.length_filter_le (fun b => !b == k) l
  rw [List.length_cons]
  omega

theorem pairwise_acceptedBy (l : List (Arity × α)) : (acceptedBy l).Pairwise (· ≤ ·) := by
  have hsorted : (acceptedBy l).Pairwise fun i j => decide (i ≤ j) = true := by
    apply List.pairwise_mergeSort
    · simpa using fun _ _ _ => Nat.le_trans
    · simpa using Nat.le_total
  exact hsorted.imp of_decide_eq_true

/-- The order of the functions does not matter for the numbers that they accept. -/
theorem acceptedBy_perm {l l' : List (Arity × α)} (h : l.Perm l') :
    acceptedBy l = acceptedBy l' := by
  apply List.Perm.eq_of_pairwise' (pairwise_acceptedBy l) (pairwise_acceptedBy l')
  exact (List.mergeSort_perm _ _).trans ((h.flatMap_right _).trans (List.mergeSort_perm _ _).symm)

theorem pairwise_available : (t.available name).Pairwise (· < ·) :=
  pairwise_lt_eraseDups _ (pairwise_acceptedBy (t.overloads name))

theorem overloads_eq_nil_iff : t.overloads name = [] ↔ ∀ a f, (name, a, f) ∉ t.entries := by
  simp only [List.eq_nil_iff_forall_not_mem, Prod.forall, mem_overloads_iff]

theorem unknownFunction_ne_wrongArity (l : List Nat) :
    Error.unknownFunction name ≠ Error.wrongArity name l := by
  intro h
  have hmessage := congrArg (fun e : Error => e.message.toList.head?) h
  simp [Error.unknownFunction, Error.wrongArity, Error.of] at hmessage

theorem mostSpecific_cases (t : FunctionTable α) (name : ExpandedName) (n : Nat) :
    (∃ e, t.mostSpecific name n = .ok e) ∨
      (t.mostSpecific name n = .error (.unknownFunction name) ∧ t.overloads name = []) ∨
      (t.mostSpecific name n = .error (.wrongArity name (t.available name)) ∧
        t.overloads name ≠ []) := by
  unfold mostSpecific
  split
  · rename_i hnil
    exact .inr (.inl ⟨rfl, hnil⟩)
  · rename_i hne
    split
    · rename_i e _
      exact .inl ⟨e, rfl⟩
    · exact .inr (.inr ⟨rfl, hne⟩)

theorem mostSpecific_eq_unknownFunction_iff :
    t.mostSpecific name n = .error (.unknownFunction name) ↔
      ∀ a f, (name, a, f) ∉ t.entries := by
  rw [← overloads_eq_nil_iff]
  rcases mostSpecific_cases t name n with ⟨e, h⟩ | ⟨h, hnil⟩ | ⟨h, hne⟩
  · -- a function that is found stands in the table
    have hmem := mem_overloads_iff.mpr (mem_of_mostSpecific h)
    simp [h, List.ne_nil_of_mem hmem]
  · simp [h, hnil]
  · simp [h, hne, (unknownFunction_ne_wrongArity (t.available name)).symm]

theorem mostSpecific_eq_wrongArity_iff :
    t.mostSpecific name n = .error (.wrongArity name (t.available name)) ↔
      (∃ a f, (name, a, f) ∈ t.entries) ∧ ∀ a f, (name, a, f) ∈ t.entries → ¬ a.Covers n := by
  have hnames : t.overloads name ≠ [] ↔ ∃ a f, (name, a, f) ∈ t.entries := by
    rw [Ne, overloads_eq_nil_iff]
    simp only [not_forall, not_not]
  have hcovers : (∀ a f, (name, a, f) ∈ t.entries → ¬ a.Covers n) ↔
      ¬ ∃ e, t.mostSpecific name n = .ok e := by
    rw [mostSpecific_isOk_iff]
    simp only [not_exists, not_and]
  rw [← hnames, hcovers]
  rcases mostSpecific_cases t name n with ⟨e, h⟩ | ⟨h, hnil⟩ | ⟨h, hne⟩
  · simp [h]
  · simp [h, hnil, unknownFunction_ne_wrongArity (t.available name)]
  · simp [h, hne]

theorem available_congr (hmem : ∀ e, e ∈ t.entries ↔ e ∈ u.entries) :
    t.available name = u.available name := by
  -- both lists are strictly ascending, so their elements determine them
  apply List.Pairwise.eq_of_mem_iff pairwise_available pairwise_available
  intro k
  simp only [mem_available_iff, hmem]

/-- How a call is answered depends on the set of registrations. -/
theorem mostSpecific_congr (ht : t.Unambiguous name) (hu : u.Unambiguous name)
    (hmem : ∀ e, e ∈ t.entries ↔ e ∈ u.entries) :
    t.mostSpecific name n = u.mostSpecific name n := by
  -- each of the three outcomes is told by the entries alone
  rcases mostSpecific_cases t name n with ⟨⟨a, f⟩, h⟩ | ⟨h, -⟩ | ⟨h, -⟩
  · rw [h, eq_comm, mostSpecific_eq_ok_iff hu]
    rw [mostSpecific_eq_ok_iff ht] at h
    simpa only [IsMostSpecific, hmem] using h
  · rw [h, eq_comm, mostSpecific_eq_unknownFunction_iff]
    simpa only [mostSpecific_eq_unknownFunction_iff, hmem] using h
  · rw [h, available_congr hmem, eq_comm, mostSpecific_eq_wrongArity_iff]
    simpa only [mostSpecific_eq_wrongArity_iff, hmem] using h

/-! ## 4. Sorting again -/

section Sorting

variable {le : α → α → Bool}

/-- The elements that tie with one of them tell whether it is there. -/
theorem mem_iff_of_filter_ties (refl : ∀ a, le a a = true) {s t : List α}
    (h : ∀ a, s.filter (fun b => le a b && le b a) = t.filter fun b => le a b && le b a) (a : α) :
    a ∈ s ↔ a ∈ t := by
  have hfilter : a ∈ s.filter (fun b => le a b && le b a) ↔
      a ∈ t.filter fun b => le a b && le b a := by rw [h a]
  simpa only [List.mem_filter, refl, Bool.and_self, and_true] using hfilter

/-- Sorted lists are the same if for each element those that tie with it are. -/
theorem eq_of_sorted_of_filter_ties (refl : ∀ a, le a a = true) {s t : List α}
    (hs : s.Pairwise fun a b => le a b = true) (ht : t.Pairwise fun a b => le a b = true)
    (h : ∀ a, s.filter (fun b => le a b && le b a) = t.filter fun b => le a b && le b a) :
    s = t := by
  induction s generalizing t with
  | nil =>
    symm
    simpa [List.eq_nil_iff_forall_not_mem] using mem_iff_of_filter_ties refl h
  | cons a s ih =>
    have hmem := mem_iff_of_filter_ties refl h
    cases t with
    | nil => exact absurd ((hmem a).mp List.mem_cons_self) List.not_mem_nil
    | cons b t =>
      have hab : le a b = true := by
        rcases List.mem_cons.mp ((hmem b).mpr List.mem_cons_self) with rfl | hb
        · exact refl b
        · exact List.rel_of_pairwise_cons hs hb
      have hba : le b a = true := by
        rcases List.mem_cons.mp ((hmem a).mp List.mem_cons_self) with rfl | ha
        · exact refl a
        · exact List.rel_of_pairwise_cons ht ha
      -- the first elements tie, so both stand first among those that tie with them
      have hties := h a
      rw [List.filter_cons_of_pos (by simpa using refl a),
        List.filter_cons_of_pos (by rw [hab, hba]; rfl), List.cons.injEq] at hties
      obtain rfl := hties.1
      congr 1
      apply ih hs.of_cons ht.of_cons
      intro c
      have hc := h c
      cases htie : le c a && le a c with
      | true => simpa only [List.filter_cons, htie, if_true, List.cons.injEq, true_and] using hc
      | false => simpa only [List.filter_cons, htie, Bool.false_eq_true, if_false] using hc

variable (trans : ∀ a b c, le a b = true → le b c = true → le a c = true)
  (total : ∀ a b, (le a b || le b a) = true)

include trans total

/-- Sorting leaves the elements that tie with one of them in their order. -/
theorem filter_ties_mergeSort (l : List α) (a : α) :
    (l.mergeSort le).filter (fun b => le a b && le b a) = l.filter fun b => le a b && le b a := by
  have hsorted : (l.filter fun b => le a b && le b a).Pairwise fun b c => le b c = true := by
    rw [List.pairwise_iff_forall_sublist]
    intro b c hbc
    have hb := hbc.subset List.mem_cons_self
    have hc := hbc.subset (List.mem_cons_of_mem b List.mem_cons_self)
    rw [List.mem_filter, Bool.and_eq_true] at hb hc
    exact trans b a c hb.2.2 hc.2.1
  have hsublist := (List.sublist_mergeSort trans total hsorted List.filter_sublist).filter
    fun b => le a b && le b a
  rw [List.filter_filter] at hsublist
  simp only [Bool.and_self] at hsublist
  exact (hsublist.eq_of_length ((List.mergeSort_perm l le).filter _).length_eq.symm).symm

/-- Sorting a part before the whole is sorted makes no difference. -/
theorem mergeSort_mergeSort_append (l r : List α) :
    (l.mergeSort le ++ r).mergeSort le = (l ++ r).mergeSort le := by
  apply eq_of_sorted_of_filter_ties
  · simpa using fun a => total a a
  · exact List.pairwise_mergeSort trans total _
  · exact List.pairwise_mergeSort trans total _
  · intro a
    rw [filter_ties_mergeSort trans total, filter_ties_mergeSort trans total, List.filter_append,
      List.filter_append, filter_ties_mergeSort trans total]

end Sorting

/-- The functions of a name in a table that sorts them again whenever one is registered. -/
def sortedOnRegistration (name : ExpandedName) (calls : List (ExpandedName × Arity × α)) :
    List (Arity × α) :=
  (calls.filter (·.1 == name)).foldl (fun kept c => bySpecificity (kept ++ [c.2])) []

theorem foldl_bySpecificity (kept : List (Arity × α)) (calls : List (ExpandedName × Arity × α)) :
    calls.foldl (fun kept c => bySpecificity (kept ++ [c.2])) (bySpecificity kept) =
      bySpecificity (kept ++ calls.map (·.2)) := by
  induction calls generalizing kept with
  | nil => rw [List.foldl_nil, List.map_nil, List.append_nil]
  | cons c calls ih =>
    have hsort : bySpecificity (bySpecificity kept ++ [c.2]) = bySpecificity (kept ++ [c.2]) := by
      apply mergeSort_mergeSort_append
      · exact fun _ _ _ => Arity.specificOrSame_trans
      · exact fun _ _ => Arity.specificOrSame_total _ _
    rw [List.foldl_cons, hsort, ih, List.map_cons, List.append_assoc, List.singleton_append]

/-! ## 5. Registration in turn -/

/-- The table after some functions have been registered, each under a name and for a range. -/
def registerAll (calls : List (ExpandedName × Arity × α)) : FunctionTable α :=
  calls.foldl (fun t c => t.register c.1 c.2.1 c.2.2) .empty

@[simp] theorem entries_registerAll (calls : List (ExpandedName × Arity × α)) :
    (registerAll calls).entries = calls := by
  have h := entries_foldl_register id calls .empty
  rwa [List.map_id] at h

/-- A call looks at the functions of its name in the order of a table that sorts them again whenever
one is registered, and the numbers that it lists if it is refused are those of that table. -/
theorem sortedOnRegistration_eq (calls : List (ExpandedName × Arity × α)) (name : ExpandedName) :
    sortedOnRegistration name calls = bySpecificity ((registerAll calls).overloads name) ∧
      acceptedBy (sortedOnRegistration name calls) =
        acceptedBy ((registerAll calls).overloads name) := by
  have hsorted : sortedOnRegistration name calls =
      bySpecificity ((registerAll calls).overloads name) := by
    have hfold := foldl_bySpecificity [] (calls.filter (·.1 == name))
    rw [bySpecificity, List.mergeSort_nil, List.nil_append] at hfold
    rw [sortedOnRegistration, hfold, overloads, entries_registerAll]
  refine ⟨hsorted, ?_⟩
  rw [hsorted]
  exact acceptedBy_perm (List.mergeSort_perm _ _)

/-- The calls that register something under the name do so for different ranges. -/
def DifferentRanges (name : ExpandedName) (calls : List (ExpandedName × Arity × α)) : Prop :=
  calls.Pairwise fun c d => c.1 = name → d.1 = name → c.2.1 ≠ d.2.1

theorem unambiguous_registerAll {calls : List (ExpandedName × Arity × α)}
    (h : DifferentRanges name calls) : (registerAll calls).Unambiguous name := by
  rw [Unambiguous, overloads, entries_registerAll, List.Nodup, List.pairwise_map,
    List.pairwise_map, List.pairwise_filter]
  simpa only [DifferentRanges, beq_iff_eq] using h

theorem DifferentRanges.perm {calls calls' : List (ExpandedName × Arity × α)}
    (h : DifferentRanges name calls) (hperm : calls'.Perm calls) : DifferentRanges name calls' := by
  apply (hperm.pairwise_iff _).mpr h
  intro c d hcd hd hc
  exact (hcd hc hd).symm

/-- Functions are registered under a name for ranges that differ. A call finds one of them exactly
if some range covers its number of arguments, and then the one whose range is more specific than
all others that do, in whatever order they were registered. Otherwise the reason is that nothing
has the name, or that no range under it covers the number. -/
theorem mostSpecific_registerAll {calls : List (ExpandedName × Arity × α)}
    (h : DifferentRanges name calls) (n : Nat) :
    ((∃ e, (registerAll calls).mostSpecific name n = .ok e) ↔
        ∃ a f, (name, a, f) ∈ calls ∧ a.Covers n) ∧
      (∀ a f, (registerAll calls).mostSpecific name n = .ok (a, f) ↔
        (name, a, f) ∈ calls ∧ a.Covers n ∧
          ∀ b g, (name, b, g) ∈ calls → b.Covers n → b ≠ a → a.MoreSpecific b) ∧
      (∀ calls', calls'.Perm calls →
        (registerAll calls').mostSpecific name n = (registerAll calls).mostSpecific name n) ∧
      ((registerAll calls).mostSpecific name n = .error (.unknownFunction name) ↔
        ∀ a f, (name, a, f) ∉ calls) ∧
      ((registerAll calls).mostSpecific name n =
          .error (.wrongArity name ((registerAll calls).available name)) ↔
        (∃ a f, (name, a, f) ∈ calls) ∧ ∀ a f, (name, a, f) ∈ calls → ¬ a.Covers n) := by
  have hunambiguous := unambiguous_registerAll h
  refine ⟨?_, ?_, ?_, ?_, ?_⟩
  · rw [mostSpecific_isOk_iff, entries_registerAll]
  · intro a f
    rw [mostSpecific_eq_ok_iff hunambiguous, IsMostSpecific, entries_registerAll]
  · intro calls' hperm
    apply mostSpecific_congr (unambiguous_registerAll (h.perm hperm)) hunambiguous
    intro e
    rw [entries_registerAll, entries_registerAll, hperm.mem_iff]
  · rw [mostSpecific_eq_unknownFunction_iff, entries_registerAll]
  · rw [mostSpecific_eq_wrongArity_iff, entries_registerAll]

/-- Three ranges under one name cover two arguments, and one of another name does. -/
theorem mostSpecific_registerAll_three :
    DifferentRanges ⟨none, "f"⟩
        [(⟨none, "f"⟩, .atLeast 1, 0), (⟨none, "f"⟩, .between 1 3, 1), (⟨none, "g"⟩, .exactly 2, 2),
          (⟨none, "f"⟩, .between 1 2, 3)] ∧
      (registerAll [(⟨none, "f"⟩, .atLeast 1, 0), (⟨none, "f"⟩, .between 1 3, 1),
          (⟨none, "g"⟩, .exactly 2, 2), (⟨none, "f"⟩, .between 1 2, 3)]).mostSpecific
        ⟨none, "f"⟩ 2 = .ok (.between 1 2, 3) := by
  have h : DifferentRanges ⟨none, "f"⟩
      [(⟨none, "f"⟩, .atLeast 1, 0), (⟨none, "f"⟩, .between 1 3, 1), (⟨none, "g"⟩, .exactly 2, 2),
        (⟨none, "f"⟩, .between 1 2, 3)] := by
    unfold DifferentRanges
    decide
  refine ⟨h, ((mostSpecific_registerAll h 2).2.1 (.between 1 2) 3).mpr ⟨?_, ?_, ?_⟩⟩
  · decide
  · simp [Arity.between, Arity.Covers]
  · intro b g hmem _ hne
    simp at hmem
    rcases hmem with ⟨rfl, rfl⟩ | ⟨rfl, rfl⟩ | ⟨rfl, rfl⟩
    · simp [Arity.MoreSpecific, Arity.between, Arity.atLeast]
    · simp [Arity.MoreSpecific, Arity.between]
    · exact absurd rfl hne

end FunctionTable

end XPath
