import Mathlib.Data.List.Nodup
import XPath.Eval
import XPath.Proofs.Resolution

/-!
# Calls of library functions

No name is registered twice in the library.  So a call converts its arguments by the signature of
the one function with its name, and then runs the body of this function.
-/

namespace XPath

namespace FunctionTable

variable {α : Type} {t : FunctionTable α} {name : ExpandedName} {n : Nat} {e : Arity × α}

/-- Whether no name is registered twice. -/
def NamedOnce (t : FunctionTable α) : Prop := (t.entries.map (·.1)).Nodup

theorem NamedOnce.overloads_eq (ht : t.NamedOnce) (h : (name, e) ∈ t.entries) :
    t.overloads name = [e] := by
  rcases List.append_of_mem h with ⟨before, behind, hentries⟩
  rw [NamedOnce, hentries, List.map_append, List.map_cons, List.nodup_middle, List.nodup_cons,
    ← List.map_append, List.mem_map, not_exists] at ht
  have hother : ∀ x ∈ before ++ behind, ¬ (x.1 == name) = true := by
    intro x hx he
    exact ht.1 x ⟨hx, beq_iff_eq.mp he⟩
  have hbefore := List.filter_eq_nil_iff.mpr fun x hx => hother x (List.mem_append_left _ hx)
  have hbehind := List.filter_eq_nil_iff.mpr fun x hx => hother x (List.mem_append_right _ hx)
  rw [overloads, hentries, List.filter_append, hbefore, List.filter_cons_of_pos (by simp), hbehind]
  rfl

theorem NamedOnce.firstRegistered_eq (ht : t.NamedOnce) (h : (name, e) ∈ t.entries)
    (ha : e.1.accepts n = true) : t.firstRegistered name n = .ok e := by
  have hfound : accepting? [e] n = some e := List.find?_cons_of_pos ha
  rw [firstRegistered, ht.overloads_eq h]
  simp only [hfound]

theorem NamedOnce.mostSpecific_eq (ht : t.NamedOnce) (h : (name, e) ∈ t.entries)
    (ha : e.1.accepts n = true) : t.mostSpecific name n = .ok e := by
  have hfound : accepting? (bySpecificity [e]) n = some e := by
    rw [bySpecificity, List.mergeSort_singleton]
    exact List.find?_cons_of_pos ha
  rw [mostSpecific, ht.overloads_eq h]
  simp only [hfound]

end FunctionTable

namespace Library

theorem nodup_names : (table.map (·.signature.name)).Nodup := by decide +kernel

theorem namedOnce_signatures : signatures.NamedOnce := by
  rw [FunctionTable.NamedOnce, signatures, List.map_map]
  exact nodup_names

theorem namedOnce_functions : functions.NamedOnce := by
  rw [FunctionTable.NamedOnce, functions, List.map_map]
  exact nodup_names

end Library

/-- A call of a function of the library converts the arguments and runs the body. -/
theorem Environment.call_eq {env : Environment} (hsig : env.static.signatures = Library.signatures)
    (hfun : env.functions = Library.functions) {f : LibraryFunction} (hf : f ∈ Library.table)
    {q : QName} (hq : q.expanded = f.signature.name) {args : List Sequence}
    (ha : f.signature.arity.accepts args.length = true) (scope : Scope) :
    env.call scope q args = f.signature.convertArguments args >>=
      f.body ⟨q.expanded, env.static, env.dynamic, scope.focus, env.collation⟩ := by
  have hentry : (f.signature.name, f.signature.arity, f.signature) ∈
      Library.signatures.entries := List.mem_map_of_mem hf
  have hbody : (f.signature.name, f.signature.arity, f.body) ∈ Library.functions.entries :=
    List.mem_map_of_mem hf
  have hforCall : Library.signatures.forCall f.signature.name args.length = .ok f.signature := by
    rw [Signatures.forCall, Library.namedOnce_signatures.firstRegistered_eq hentry ha]
    rfl
  have hmost := Library.namedOnce_functions.mostSpecific_eq hbody ha
  rw [Environment.call, hsig, hfun, hq, hforCall, hmost]
  rfl

end XPath
