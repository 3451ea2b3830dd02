import Mathlib.Data.List.Nodup
import XPath.Proofs.LibraryCalls

/-!
# Registrations

A function is registered under a name and for a range of arities in two tables: with its signature
in one, with its body in the other.  A call is checked against the signature that was registered
first and made with the body that is most specific.  Where ranges overlap, the two may come from
different registrations.  They come from one exactly if the first registration that answers the
call is at least as specific as every other that does; so they always do where no name is
registered twice, as in the library itself.
-/

namespace XPath

/-! ## 1. Specificity -/

namespace Arity

variable {a b c : Arity}

theorem specificOrSame_total (a b : Arity) :
    (a.specificOrSame b || b.specificOrSame a) = true := by
  rcases a with ⟨l, _ | m⟩ <;> rcases b with ⟨l', _ | m'⟩ <;> simp [specificOrSame] <;> omega

theorem specificOrSame_trans (hab : a.specificOrSame b = true) (hbc : b.specificOrSame c = true) :
    a.specificOrSame c = true := by
  rcases a with ⟨l, _ | m⟩ <;> rcases b with ⟨l', _ | m'⟩ <;> rcases c with ⟨l'', _ | m''⟩ <;>
    simp only [specificOrSame, Bool.or_eq_true, Bool.and_eq_true, decide_eq_true_eq, beq_iff_eq,
      Bool.false_eq_true, and_false, or_false, and_true] at * <;> omega

end Arity

/-- The first element with a property in a sorted list, in terms of the rest of the list: a new
element comes before it unless it comes strictly after. -/
theorem find?_mergeSort_cons {α : Type} {le : α → α → Bool}
    (trans : ∀ a b c, le a b = true → le b c = true → le a c = true)
    (total : ∀ a b, (le a b || le b a) = true) (p : α → Bool) (a : α) (l : List α) :
    ((a :: l).mergeSort le).find? p =
      if p a then some (((l.mergeSort le).find? p).elim a fun b => if le a b then a else b)
      else (l.mergeSort le).find? p := by
  rcases List.mergeSort_cons trans total a l with ⟨l₁, l₂, hcons, hl, hbefore⟩
  have hsorted := List.pairwise_mergeSort trans total (a :: l)
  rw [hcons, List.pairwise_append, List.pairwise_cons] at hsorted
  rw [hcons, hl, List.find?_append, List.find?_append, List.find?_cons]
  cases hp : p a with
  | false => simp
  | true =>
    cases h₁ : l₁.find? p with
    | some b =>
      have hlt : le a b = false := by simpa using hbefore b (List.mem_of_find?_eq_some h₁)
      simp [hlt]
    | none =>
      cases h₂ : l₂.find? p with
      | none => simp
      | some b =>
        have hle : le a b = true := hsorted.2.1.1 b (List.mem_of_find?_eq_some h₂)
        simp [hle]

/-- The first element with a property in a sorted list comes before all others that have it. -/
theorem le_of_find?_mergeSort {α : Type} {le : α → α → Bool}
    (trans : ∀ a b c, le a b = true → le b c = true → le a c = true)
    (total : ∀ a b, (le a b || le b a) = true) {p : α → Bool} {l : List α} {a : α}
    (h : (l.mergeSort le).find? p = some a) {b : α} (hb : b ∈ l) (hpb : p b = true) :
    le a b = true := by
  -- `a` is found first in the sorted list, so `b` stands behind it or is it
  rcases List.find?_eq_some_iff_append.mp h with ⟨hpa, l₁, l₂, hsplit, hbefore⟩
  have hsorted := List.pairwise_mergeSort trans total l
  rw [hsplit, List.pairwise_append, List.pairwise_cons] at hsorted
  have hmem : b ∈ l₁ ++ a :: l₂ := hsplit ▸ List.mem_mergeSort.mpr hb
  rcases List.mem_append.mp hmem with h₁ | h₂
  · have hnot := hbefore b h₁
    rw [hpb] at hnot
    cases hnot
  · rcases List.mem_cons.mp h₂ with rfl | h₂
    · simpa using total b b
    · exact hsorted.2.1.1 b h₂

/-- Sorting leaves the first element with a property first exactly if all others that have it come
after it in the order, ties included. -/
theorem find?_mergeSort_eq_iff {α : Type} {le : α → α → Bool}
    (trans : ∀ a b c, le a b = true → le b c = true → le a c = true)
    (total : ∀ a b, (le a b || le b a) = true) (p : α → Bool) (l : List α) :
    (l.mergeSort le).find? p = l.find? p ↔
      ∀ a, l.find? p = some a → ∀ b ∈ l, p b = true → le a b = true := by
  refine ⟨?_, ?_⟩
  · intro h a ha b hb hpb
    exact le_of_find?_mergeSort trans total (h.trans ha) hb hpb
  · intro h
    induction l with
    | nil => simp
    | cons c l ih =>
      rw [find?_mergeSort_cons trans total]
      cases hp : p c with
      | false =>
        have hskip : (c :: l).find? p = l.find? p := by rw [List.find?_cons, hp]
        rw [if_neg Bool.false_ne_true, hskip]
        exact ih fun a ha b hb => h a (hskip.trans ha) b (List.mem_cons_of_mem c hb)
      | true =>
        have hfirst : (c :: l).find? p = some c := by rw [List.find?_cons, hp]
        rw [if_pos rfl, hfirst]
        cases hfound : (l.mergeSort le).find? p with
        | none => rfl
        | some b =>
          have hb : b ∈ l := List.mem_mergeSort.mp (List.mem_of_find?_eq_some hfound)
          have hle := h c hfirst b (List.mem_cons_of_mem c hb) (List.find?_some hfound)
          simp only [hle, if_true, Option.elim_some]

/-! ## 2. The two ways to choose -/

namespace FunctionTable

variable {α β : Type} (t : FunctionTable α) (name : ExpandedName) (n : Nat)

/-- The table with something else registered in the place of each function. -/
def map (f : α → β) (t : FunctionTable α) : FunctionTable β :=
  ⟨t.entries.map fun e => (e.1, e.2.1, f e.2.2)⟩

theorem overloads_map (f : α → β) :
    (t.map f).overloads name = (t.overloads name).map fun e => (e.1, f e.2) := by
  simp only [overloads, map, List.filter_map, List.map_map]
  rfl

/-- The function that was registered first, if there is any, without the reason why there is
none. -/
theorem firstRegistered_toOption :
    (t.firstRegistered name n).toOption = (t.overloads name).find? (·.1.accepts n) := by
  unfold firstRegistered accepting?
  split
  · rename_i h
    rw [h]
    rfl
  · split <;> rename_i h <;> rw [h] <;> rfl

theorem mostSpecific_toOption :
    (t.mostSpecific name n).toOption =
      (bySpecificity (t.overloads name)).find? (·.1.accepts n) := by
  unfold mostSpecific accepting?
  split
  · rename_i h
    rw [h, bySpecificity, List.mergeSort_nil]
    rfl
  · split <;> rename_i h <;> rw [h] <;> rfl

theorem firstRegistered_map (f : α → β) :
    ((t.map f).firstRegistered name n).toOption =
      (t.firstRegistered name n).toOption.map fun e => (e.1, f e.2) := by
  rw [firstRegistered_toOption, firstRegistered_toOption, overloads_map, List.find?_map]
  rfl

theorem mostSpecific_map (f : α → β) :
    ((t.map f).mostSpecific name n).toOption =
      (t.mostSpecific name n).toOption.map fun e => (e.1, f e.2) := by
  -- sorting looks at the arities, which stay
  have hsort := List.map_mergeSort (f := fun e : Arity × α => (e.1, f e.2))
    (r := fun a b => a.1.specificOrSame b.1) (s := fun a b => a.1.specificOrSame b.1)
    (l := t.overloads name) fun _ _ _ _ => rfl
  rw [mostSpecific_toOption, mostSpecific_toOption, overloads_map, bySpecificity, bySpecificity,
    ← hsort, List.find?_map]
  rfl

/-- The most specific of the functions that accept a call, one function at a time. -/
theorem find?_bySpecificity_cons (e : Arity × α) (l : List (Arity × α)) :
    (bySpecificity (e :: l)).find? (·.1.accepts n) =
      if e.1.accepts n then
        some (((bySpecificity l).find? (·.1.accepts n)).elim e
          fun d => if e.1.specificOrSame d.1 then e else d)
      else (bySpecificity l).find? (·.1.accepts n) := by
  apply find?_mergeSort_cons
  · exact fun _ _ _ => Arity.specificOrSame_trans
  · exact fun _ _ => Arity.specificOrSame_total _ _

/-- The two ways to choose agree exactly if the function that was registered first is at least as
specific as all others that accept the call. -/
theorem mostSpecific_eq_firstRegistered_iff :
    (t.mostSpecific name n).toOption = (t.firstRegistered name n).toOption ↔
      ∀ e, (t.firstRegistered name n).toOption = some e →
        ∀ d ∈ t.overloads name, d.1.accepts n = true → e.1.specificOrSame d.1 = true := by
  rw [mostSpecific_toOption, firstRegistered_toOption, bySpecificity]
  apply find?_mergeSort_eq_iff
  · exact fun _ _ _ => Arity.specificOrSame_trans
  · exact fun _ _ => Arity.specificOrSame_total _ _

/-- Registering one thing after the other appends its entries to the table. -/
theorem entries_foldl_register (entry : β → ExpandedName × Arity × α) (l : List β)
    (t : FunctionTable α) :
    (l.foldl (fun t b => t.register (entry b).1 (entry b).2.1 (entry b).2.2) t).entries =
      t.entries ++ l.map entry := by
  induction l generalizing t with
  | nil => simp
  | cons b l ih =>
    rw [List.foldl_cons, ih, register, List.map_cons, List.append_assoc]
    rfl

end FunctionTable

/-! ## 3. Tables that are filled together -/

namespace Registrations

/-- The table of signatures after some functions have been registered in turn. -/
def signatures (fs : List LibraryFunction) : Signatures :=
  fs.foldl (fun t f => t.add f.signature) .empty

/-- The table of bodies after the same functions have been registered. -/
def bodies (fs : List LibraryFunction) : Functions :=
  fs.foldl (fun t f => t.register f.signature.name f.signature.arity f.body) .empty

/-- The registrations themselves, each with its number, so that they can be told apart. -/
def numbered (fs : List LibraryFunction) : FunctionTable (Nat × LibraryFunction) :=
  ⟨fs.zipIdx.map fun (f, i) => (f.signature.name, f.signature.arity, i, f)⟩

variable (fs : List LibraryFunction) (name : ExpandedName) (n : Nat)

/-- The registration whose signature a call is checked against. -/
def signatureFor? : Option (Nat × LibraryFunction) :=
  ((numbered fs).firstRegistered name n).toOption.map (·.2)

/-- The registration whose body a call is made with. -/
def bodyFor? : Option (Nat × LibraryFunction) :=
  ((numbered fs).mostSpecific name n).toOption.map (·.2)

/-- Whether a function may be called by a name with `n` arguments. -/
def answers (f : LibraryFunction) : Bool := f.signature.name == name && f.signature.arity.accepts n

theorem map_numbered {α : Type} (g : LibraryFunction → α) :
    ((numbered fs).map (g ·.2)).entries =
      fs.map fun f => (f.signature.name, f.signature.arity, g f) := by
  have h := congrArg
    (List.map fun f : LibraryFunction => (f.signature.name, f.signature.arity, g f))
    (List.zipIdx_map_fst 0 fs)
  rw [List.map_map] at h
  rw [← h]
  simp only [FunctionTable.map, numbered, List.map_map]
  rfl

theorem signatures_eq : signatures fs = (numbered fs).map (·.2.signature) := by
  have h := FunctionTable.entries_foldl_register
    (fun f : LibraryFunction => (f.signature.name, f.signature.arity, f.signature)) fs .empty
  have hnumbered := map_numbered fs LibraryFunction.signature
  exact congrArg FunctionTable.mk (h.trans hnumbered.symm)

theorem bodies_eq : bodies fs = (numbered fs).map (·.2.body) := by
  have h := FunctionTable.entries_foldl_register
    (fun f : LibraryFunction => (f.signature.name, f.signature.arity, f.body)) fs .empty
  have hnumbered := map_numbered fs LibraryFunction.body
  exact congrArg FunctionTable.mk (h.trans hnumbered.symm)

/-- The built-in functions are registered like all others, before them. -/
theorem signatures_table : signatures Library.table = Library.signatures := by
  rw [signatures_eq]
  exact congrArg FunctionTable.mk (map_numbered Library.table LibraryFunction.signature)

theorem bodies_table : bodies Library.table = Library.functions := by
  rw [bodies_eq]
  exact congrArg FunctionTable.mk (map_numbered Library.table LibraryFunction.body)

/-- The signature that the table gives is the one of the registration that is chosen. -/
theorem forCall_signatures :
    ((signatures fs).forCall name n).toOption = (signatureFor? fs name n).map (·.2.signature) := by
  have hmap := (numbered fs).firstRegistered_map name n fun r => r.2.signature
  rw [← signatures_eq] at hmap
  have hforCall : ((signatures fs).forCall name n).toOption =
      ((signatures fs).firstRegistered name n).toOption.map (·.2) := by
    unfold Signatures.forCall
    cases (signatures fs).firstRegistered name n <;> rfl
  rw [hforCall, hmap, signatureFor?, Option.map_map, Option.map_map]
  rfl

theorem overloads_numbered :
    (numbered fs).overloads name =
      (fs.zipIdx.filter (·.1.signature.name == name)).map
        fun (f, i) => (f.signature.arity, i, f) := by
  simp only [FunctionTable.overloads, numbered, List.filter_map, List.map_map]
  rfl

theorem arity_of_mem_overloads {e : Arity × Nat × LibraryFunction}
    (h : e ∈ (numbered fs).overloads name) : e.1 = e.2.2.signature.arity := by
  rw [overloads_numbered] at h
  rcases List.mem_map.mp h with ⟨_, _, rfl⟩
  rfl

/-- An entry is known by its registration: the arity is that of the function. -/
theorem map_arity {o : Option (Arity × Nat × LibraryFunction)}
    (h : ∀ e, o = some e → e ∈ (numbered fs).overloads name) :
    o = (o.map (·.2)).map fun r => (r.2.signature.arity, r) := by
  cases o with
  | none => rfl
  | some e =>
    have harity := arity_of_mem_overloads fs name (h e rfl)
    rw [Option.map_some, Option.map_some, ← harity]

theorem firstRegistered_numbered :
    ((numbered fs).firstRegistered name n).toOption =
      (signatureFor? fs name n).map fun r => (r.2.signature.arity, r) := by
  apply map_arity fs name
  intro e he
  rw [FunctionTable.firstRegistered_toOption] at he
  exact List.mem_of_find?_eq_some he

theorem mostSpecific_numbered :
    ((numbered fs).mostSpecific name n).toOption =
      (bodyFor? fs name n).map fun r => (r.2.signature.arity, r) := by
  apply map_arity fs name
  intro e he
  rw [FunctionTable.mostSpecific_toOption] at he
  exact FunctionTable.mem_bySpecificity.mp (List.mem_of_find?_eq_some he)

/-- The body that the table gives is the one of the registration that is chosen. -/
theorem mostSpecific_bodies :
    ((bodies fs).mostSpecific name n).toOption =
      (bodyFor? fs name n).map fun r => (r.2.signature.arity, r.2.body) := by
  have hmap := (numbered fs).mostSpecific_map name n fun r => r.2.body
  rw [← bodies_eq] at hmap
  rw [hmap, mostSpecific_numbered, Option.map_map]
  rfl

/-! ## 4. When the two tables agree -/

/-- Of the functions that answer a call, the one that was registered first is at least as specific
as all others. -/
def FirstIsMostSpecific : Prop :=
  ∀ f, fs.find? (answers name n) = some f →
    ∀ g ∈ fs, answers name n g = true →
      f.signature.arity.specificOrSame g.signature.arity = true

/-- The signature of a call is that of the first function that answers it. -/
theorem signatureFor?_function :
    (signatureFor? fs name n).map (·.2) = fs.find? (answers name n) := by
  have hfirst : fs.find? (answers name n) = (fs.zipIdx.map Prod.fst).find? (answers name n) := by
    rw [List.zipIdx_map_fst]
  have hanswers : (fun p : LibraryFunction × Nat =>
        p.1.signature.name == name && p.1.signature.arity.accepts n) =
      answers name n ∘ Prod.fst := rfl
  rw [signatureFor?, FunctionTable.firstRegistered_toOption, overloads_numbered, hfirst,
    List.find?_map, List.find?_map, List.find?_filter, Option.map_map, Option.map_map, ← hanswers]
  simp only [Bool.decide_and, Bool.decide_eq_true]
  rfl

/-- What holds of the arities of all entries that accept a call holds of all functions that answer
it. -/
theorem forall_mem_overloads_numbered {P : Arity → Prop} :
    (∀ d ∈ (numbered fs).overloads name, d.1.accepts n = true → P d.1) ↔
      ∀ g ∈ fs, answers name n g = true → P g.signature.arity := by
  simp only [overloads_numbered, List.forall_mem_map, List.mem_filter, answers, Bool.and_eq_true]
  refine ⟨?_, ?_⟩
  · intro h g hg hanswers
    rw [← List.zipIdx_map_fst 0 fs] at hg
    rcases List.mem_map.mp hg with ⟨p, hp, rfl⟩
    exact h p ⟨hp, hanswers.1⟩ hanswers.2
  · intro h p hp haccepts
    have hg : p.1 ∈ fs := by
      rw [← List.zipIdx_map_fst 0 fs]
      exact List.mem_map_of_mem hp.1
    exact h p.1 hg ⟨hp.2, haccepts⟩

theorem signatureFor?_eq_bodyFor?_iff :
    signatureFor? fs name n = bodyFor? fs name n ↔ FirstIsMostSpecific fs name n := by
  have htables : signatureFor? fs name n = bodyFor? fs name n ↔
      ((numbered fs).mostSpecific name n).toOption =
        ((numbered fs).firstRegistered name n).toOption := by
    rw [firstRegistered_numbered, mostSpecific_numbered]
    have hinjective : Function.Injective
        fun r : Nat × LibraryFunction => (r.2.signature.arity, r) :=
      fun _ _ h => congrArg Prod.snd h
    rw [(Option.map_injective hinjective).eq_iff, eq_comm]
  rw [htables, FunctionTable.mostSpecific_eq_firstRegistered_iff, FirstIsMostSpecific,
    ← signatureFor?_function, firstRegistered_numbered]
  cases signatureFor? fs name n with
  | none => simp
  | some r =>
    simp only [Option.map_some, Option.some.injEq, forall_eq']
    exact forall_mem_overloads_numbered fs name n
      (P := fun a => r.2.signature.arity.specificOrSame a = true)

/-- A call is checked against the signature of one registration, and made with the body of one.
These are the same, or there is neither, exactly if the function that answers the call first is at
least as specific as all others that do. -/
theorem same_registration_iff :
    ((signatures fs).forCall name n).toOption = (signatureFor? fs name n).map (·.2.signature) ∧
      ((bodies fs).mostSpecific name n).toOption =
        (bodyFor? fs name n).map (fun r => (r.2.signature.arity, r.2.body)) ∧
      (signatureFor? fs name n = bodyFor? fs name n ↔ FirstIsMostSpecific fs name n) :=
  ⟨forCall_signatures fs name n, mostSpecific_bodies fs name n,
    signatureFor?_eq_bodyFor?_iff fs name n⟩

/-- Two functions under one name whose ranges overlap at two arguments: the first takes one or two
integers, the second exactly two strings. -/
def overlapping (name : ExpandedName) : List LibraryFunction :=
  [⟨⟨name, .between 1 2, List.replicate 2 (Library.one (.atomic .integer)), Library.many .item⟩,
      fun _ _ => .ok [.integer 1]⟩,
   ⟨⟨name, .exactly 2, List.replicate 2 (Library.one (.atomic .string)), Library.many .item⟩,
      fun _ _ => .ok [.integer 2]⟩]

/-- A call with two arguments is checked against the first signature and made with the second
body. -/
theorem signature_and_body_differ :
    (signatureFor? (overlapping ⟨none, "f"⟩) ⟨none, "f"⟩ 2).map (·.1) = some 0 ∧
      (bodyFor? (overlapping ⟨none, "f"⟩) ⟨none, "f"⟩ 2).map (·.1) = some 1 := by
  refine ⟨rfl, ?_⟩
  rw [bodyFor?, FunctionTable.mostSpecific_toOption]
  show ((List.find? _ (FunctionTable.bySpecificity [_, _])).map _).map _ = some 1
  -- both accept the call, and the first is less specific than the second
  rw [FunctionTable.find?_bySpecificity_cons, FunctionTable.bySpecificity,
    List.mergeSort_singleton]
  rfl

/-- Where no name is registered twice, a call takes signature and body from one registration. -/
theorem same_registration_of_nodup (h : (fs.map (·.signature.name)).Nodup) :
    signatureFor? fs name n = bodyFor? fs name n := by
  rw [signatureFor?_eq_bodyFor?_iff]
  intro f hf g hg hanswers
  have hf' := List.find?_some hf
  rw [answers, Bool.and_eq_true, beq_iff_eq] at hf' hanswers
  have heq : f = g :=
    List.inj_on_of_nodup_map h (List.mem_of_find?_eq_some hf) hg (hf'.1.trans hanswers.1.symm)
  rw [heq]
  simpa using Arity.specificOrSame_total g.signature.arity g.signature.arity

/-- So does every call of the library. -/
theorem same_registration_table :
    signatureFor? Library.table name n = bodyFor? Library.table name n :=
  same_registration_of_nodup _ name n Library.nodup_names

end Registrations

end XPath
