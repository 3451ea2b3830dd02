import XPath.Error

/-!
# Results without static errors

A computation whose errors are all type errors or dynamic errors.  The property goes from the parts
of a computation to the whole, so a function has it as soon as no error that it raises itself has a
static code.
-/

namespace XPath

/-! ## 1. Kinds of errors -/

attribute [simp] Error.kind_of ErrorCode.kind

@[simp] theorem Error.kind_typeError (m : String) : (Error.typeError m).kind = .type := kind_of ..

@[simp] theorem Error.kind_invalidLexical (t l : String) :
    (Error.invalidLexical t l).kind = .dynamic := kind_of ..

/-! ## 2. Results -/

/-- The computation gives a value, or an error that is not static. -/
def NotStatic {α : Type} (r : Result α) : Prop := ∀ e, r = .error e → e.kind ≠ .static

section Combinators

variable {α β : Type} {r : Result α} {g : α → Result β} {e : Error}

@[simp] theorem notStatic_ok (a : α) : NotStatic (.ok a) := by
  intro e h
  cases h

@[simp] theorem notStatic_pure (a : α) : NotStatic (pure a : Result α) := notStatic_ok a

@[simp] theorem notStatic_error : NotStatic (.error e : Result α) ↔ e.kind ≠ .static := by
  refine ⟨?_, ?_⟩
  · intro h
    exact h e rfl
  · intro h e' he
    cases he
    exact h

@[simp] theorem notStatic_bind :
    NotStatic (r >>= g) ↔ NotStatic r ∧ ∀ a, r = .ok a → NotStatic (g a) := by
  cases r with
  | ok a => exact ⟨fun h => ⟨notStatic_ok a, fun b hb => by cases hb; exact h⟩, fun h => h.2 a rfl⟩
  | error e =>
    show NotStatic (.error e : Result β) ↔ _
    rw [notStatic_error, notStatic_error]
    exact ⟨fun h => ⟨h, fun a ha => by cases ha⟩, And.left⟩

@[simp] theorem notStatic_except_map {f : α → β} :
    NotStatic (Except.map f r) ↔ NotStatic r := by
  cases r with
  | ok a => exact ⟨fun _ => notStatic_ok a, fun _ => notStatic_ok (f a)⟩
  | error e =>
    show NotStatic (.error e : Result β) ↔ _
    rw [notStatic_error, notStatic_error]

@[simp] theorem notStatic_map {f : α → β} : NotStatic (f <$> r) ↔ NotStatic r :=
  notStatic_except_map

@[simp] theorem notStatic_mapError {f : Error → Error} :
    NotStatic (r.mapError f) ↔ ∀ e, r = .error e → (f e).kind ≠ .static := by
  cases r with
  | ok a => exact ⟨fun _ e he => (by cases he), fun _ => notStatic_ok a⟩
  | error e =>
    show NotStatic (.error (f e) : Result α) ↔ _
    rw [notStatic_error]
    exact ⟨fun h e' he => by cases he; exact h, fun h => h e rfl⟩

@[simp] theorem notStatic_ite {p : Prop} [Decidable p] {s : Result α} :
    NotStatic (if p then r else s) ↔ (p → NotStatic r) ∧ (¬ p → NotStatic s) := by
  by_cases hp : p
  · rw [if_pos hp]
    exact ⟨fun h => ⟨fun _ => h, fun hn => absurd hp hn⟩, fun h => h.1 hp⟩
  · rw [if_neg hp]
    exact ⟨fun h => ⟨fun hp' => absurd hp' hp, fun _ => h⟩, fun h => h.2 hp⟩

end Combinators

/-! ## 3. Lists -/

section Lists

variable {α β : Type} {l : List α}

theorem notStatic_mapM {f : α → Result β} (h : ∀ a ∈ l, NotStatic (f a)) :
    NotStatic (l.mapM f) := by
  induction l with
  | nil => exact notStatic_ok _
  | cons a l ih =>
    rw [List.mapM_cons]
    have ha := h a List.mem_cons_self
    have hl := ih fun b hb => h b (List.mem_cons_of_mem a hb)
    simp [ha, hl]

theorem notStatic_foldlM {f : β → α → Result β} (h : ∀ b, ∀ a ∈ l, NotStatic (f b a)) (b : β) :
    NotStatic (l.foldlM f b) := by
  induction l generalizing b with
  | nil => exact notStatic_ok _
  | cons a l ih =>
    rw [List.foldlM_cons]
    have ha := h b a List.mem_cons_self
    have hl := ih fun c b hb => h c b (List.mem_cons_of_mem a hb)
    simp [ha, hl]

theorem notStatic_anyM {p : α → Result Bool} (h : ∀ a ∈ l, NotStatic (p a)) :
    NotStatic (l.anyM p) := by
  induction l with
  | nil => exact notStatic_ok _
  | cons a l ih =>
    rw [List.anyM]
    have ha := h a List.mem_cons_self
    have hl := ih fun b hb => h b (List.mem_cons_of_mem a hb)
    rw [notStatic_bind]
    refine ⟨ha, fun b _ => ?_⟩
    cases b
    · exact hl
    · exact notStatic_pure _

theorem notStatic_allM {p : α → Result Bool} (h : ∀ a ∈ l, NotStatic (p a)) :
    NotStatic (l.allM p) := by
  induction l with
  | nil => exact notStatic_ok _
  | cons a l ih =>
    rw [List.allM]
    have ha := h a List.mem_cons_self
    have hl := ih fun b hb => h b (List.mem_cons_of_mem a hb)
    rw [notStatic_bind]
    refine ⟨ha, fun b _ => ?_⟩
    cases b
    · exact notStatic_pure _
    · exact hl

theorem notStatic_forM {f : α → Result Unit} (h : ∀ a ∈ l, NotStatic (f a)) :
    NotStatic (l.forM f) := by
  induction l with
  | nil => exact notStatic_ok _
  | cons a l ih =>
    show NotStatic (f a >>= fun _ => l.forM f)
    have ha := h a List.mem_cons_self
    have hl := ih fun b hb => h b (List.mem_cons_of_mem a hb)
    rw [notStatic_bind]
    exact ⟨ha, fun _ _ => hl⟩

theorem notStatic_optionMapM {o : Option α} {f : α → Result β} (h : ∀ a, NotStatic (f a)) :
    NotStatic (o.mapM f) := by
  cases o with
  | none => exact notStatic_ok _
  | some a =>
    show NotStatic (some <$> f a)
    rw [notStatic_map]
    exact h a

end Lists

end XPath
