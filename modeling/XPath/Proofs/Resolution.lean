import XPath.Library.Table

/-!
# Function resolution

A call is checked against the signature that was registered first, and made with the body that is
most specific.  Both exist as soon as some entry of the table accepts the number of arguments, so
in two tables of the same functions every call that has a signature has a body.
-/

namespace XPath

namespace FunctionTable

variable {α β : Type} {t : FunctionTable α} {u : FunctionTable β} {name : ExpandedName} {n : Nat}

/-! ## 1. Entries that accept a call -/

/-- The entries of a table without the functions themselves. -/
def names (t : FunctionTable α) : List (ExpandedName × Arity) := t.entries.map fun e => (e.1, e.2.1)

/-- The table has a function with the name that takes `n` arguments. -/
def Accepts (t : FunctionTable α) (name : ExpandedName) (n : Nat) : Prop :=
  ∃ a, (name, a) ∈ t.names ∧ a.accepts n = true

theorem mem_overloads_iff {a : Arity} {f : α} :
    (a, f) ∈ t.overloads name ↔ (name, a, f) ∈ t.entries := by
  rw [overloads, List.mem_map]
  refine ⟨?_, ?_⟩
  · intro h
    rcases h with ⟨⟨name', a', f'⟩, h, he⟩
    rw [List.mem_filter, beq_iff_eq] at h
    cases he
    rw [← h.2]
    exact h.1
  · intro h
    exact ⟨(name, a, f), List.mem_filter.mpr ⟨h, beq_self_eq_true name⟩, rfl⟩

theorem accepting?_isSome_iff {l : List (Arity × α)} :
    (accepting? l n).isSome = true ↔ ∃ e ∈ l, e.1.accepts n = true := by
  rw [accepting?, List.find?_isSome]

theorem mem_bySpecificity {l : List (Arity × α)} {e : Arity × α} :
    e ∈ bySpecificity l ↔ e ∈ l := List.mem_mergeSort

theorem mem_of_accepting? {l : List (Arity × α)} {e : Arity × α} (h : accepting? l n = some e) :
    e ∈ l := List.mem_of_find?_eq_some h

/-! ## 2. The two ways to choose -/

theorem mem_of_firstRegistered {e : Arity × α} (h : t.firstRegistered name n = .ok e) :
    (name, e) ∈ t.entries ∧ t.Accepts name n := by
  unfold firstRegistered at h
  split at h
  · cases h
  · split at h
    · rename_i f hf
      cases h
      have hmem := mem_overloads_iff.mp (mem_of_accepting? hf)
      refine ⟨hmem, e.1, List.mem_map.mpr ⟨_, hmem, rfl⟩, ?_⟩
      -- the search for an overload returns one that accepts the call
      have haccepts := List.find?_some hf
      exact haccepts
    · cases h

theorem mem_of_mostSpecific {e : Arity × α} (h : t.mostSpecific name n = .ok e) :
    (name, e) ∈ t.entries := by
  unfold mostSpecific at h
  split at h
  · cases h
  · split at h
    · rename_i f hf
      cases h
      exact mem_overloads_iff.mp (mem_bySpecificity.mp (mem_of_accepting? hf))
    · cases h

/-- The most specific function exists if any does. -/
theorem mostSpecific_of_accepts (h : t.Accepts name n) : ∃ e, t.mostSpecific name n = .ok e := by
  rcases h with ⟨a, hmem, ha⟩
  rcases List.mem_map.mp hmem with ⟨⟨name', a', f⟩, hentry, he⟩
  have hname : name' = name := congrArg Prod.fst he
  have harity : a' = a := congrArg Prod.snd he
  rw [hname, harity] at hentry
  have hover : (a, f) ∈ t.overloads name := mem_overloads_iff.mpr hentry
  -- sorting by specificity loses no overload, so one that accepts the call is found
  have hsome : (accepting? (bySpecificity (t.overloads name)) n).isSome = true :=
    accepting?_isSome_iff.mpr ⟨(a, f), mem_bySpecificity.mpr hover, ha⟩
  rcases Option.isSome_iff_exists.mp hsome with ⟨e, hfound⟩
  refine ⟨e, ?_⟩
  unfold mostSpecific
  split
  · rename_i hnil
    rw [hnil] at hover
    cases hover
  · rw [hfound]

/-- Whether a call is accepted depends on names and arities alone. -/
theorem accepts_congr (h : t.names = u.names) : t.Accepts name n ↔ u.Accepts name n := by
  unfold Accepts
  rw [h]

end FunctionTable

/-! ## 3. The library -/

namespace Library

/-- The name of the function that raises the errors of its caller. -/
def errorName : ExpandedName := .function "error"

theorem names_signatures : signatures.names = functions.names := by
  simp only [FunctionTable.names, signatures, functions, List.map_map]
  rfl

theorem mem_signatures {name : ExpandedName} {a : Arity} {s : Signature}
    (h : (name, a, s) ∈ signatures.entries) : ∃ f ∈ table, f.signature = s := by
  rcases List.mem_map.mp h with ⟨f, hf, he⟩
  cases he
  exact ⟨f, hf, rfl⟩

theorem mem_functions {name : ExpandedName} {a : Arity} {body : FunctionBody}
    (h : (name, a, body) ∈ functions.entries) :
    ∃ f ∈ table, f.signature.name = name ∧ f.body = body := by
  rcases List.mem_map.mp h with ⟨f, hf, he⟩
  cases he
  exact ⟨f, hf, rfl, rfl⟩

/-- A call that has a signature in the library has a body there. -/
theorem mostSpecific_of_forCall {name : ExpandedName} {n : Nat} {s : Signature}
    (h : signatures.forCall name n = .ok s) : ∃ e, functions.mostSpecific name n = .ok e := by
  unfold Signatures.forCall at h
  cases hfirst : signatures.firstRegistered name n with
  | error e =>
    rw [hfirst] at h
    cases h
  | ok e =>
    have haccepts := (FunctionTable.mem_of_firstRegistered hfirst).2
    exact FunctionTable.mostSpecific_of_accepts
      ((FunctionTable.accepts_congr names_signatures).mp haccepts)

end Library

end XPath
