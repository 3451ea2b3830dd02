import XPath.Error

/-!
# Results that are values

A computation that gives a value has given one at each of its steps, and these determine the value.
What each step ensures of its value carries over to the whole in the same way.
-/

namespace XPath

/-! ## 1. Values of the steps -/

section Results

variable {α β γ : Type} {x : Result α} {y : Result β}

theorem bind_eq_ok {g : α → Result β} {r : β} :
    (x >>= g) = .ok r ↔ ∃ a, x = .ok a ∧ g a = .ok r := by
  cases x with
  | ok a => exact ⟨fun h => ⟨a, rfl, h⟩, fun ⟨_, ha, h⟩ => by cases ha; exact h⟩
  | error e =>
    refine ⟨fun h => ?_, fun ⟨_, ha, _⟩ => ?_⟩
    · cases h
    · cases ha

theorem map_eq_ok {g : α → β} {r : β} :
    (do return g (← x)) = .ok r ↔ ∃ a, x = .ok a ∧ g a = r := by
  rw [bind_eq_ok]
  refine exists_congr fun a => and_congr_right fun _ => ?_
  show (Except.ok (g a) : Result β) = .ok r ↔ g a = r
  rw [Except.ok.injEq]

theorem except_map_eq_ok {g : α → β} {r : β} :
    Except.map g x = .ok r ↔ ∃ a, x = .ok a ∧ g a = r := by
  rw [← map_eq_ok]
  cases x <;> exact Iff.rfl

theorem map₂_eq_ok {g : α → β → γ} {r : γ} :
    (do return g (← x) (← y)) = .ok r ↔ ∃ a b, x = .ok a ∧ y = .ok b ∧ g a b = r := by
  rw [bind_eq_ok]
  refine exists_congr fun a => ?_
  rw [map_eq_ok]
  exact ⟨fun ⟨ha, b, hb, h⟩ => ⟨b, ha, hb, h⟩, fun ⟨b, ha, hb, h⟩ => ⟨ha, b, hb, h⟩⟩

end Results

/-! ## 2. What a value is sure to have -/

/-- If the computation gives a value, then the value has the property. -/
def Ensures {α : Type} (r : Result α) (P : α → Prop) : Prop := ∀ a, r = .ok a → P a

section Combinators

variable {α β : Type} {r : Result α} {g : α → Result β} {P Q : α → Prop} {R : β → Prop}

@[simp] theorem ensures_ok {a : α} : Ensures (.ok a) P ↔ P a := by
  refine ⟨fun h => h a rfl, fun h b hb => ?_⟩
  cases hb
  exact h

@[simp] theorem ensures_pure {a : α} : Ensures (pure a) P ↔ P a := ensures_ok

@[simp] theorem ensures_error {e : Error} : Ensures (.error e) P := by
  intro a h
  cases h

@[simp] theorem ensures_bind : Ensures (r >>= g) R ↔ Ensures r fun a => Ensures (g a) R := by
  refine ⟨fun h a ha b hb => h b (bind_eq_ok.mpr ⟨a, ha, hb⟩), fun h b hb => ?_⟩
  rcases bind_eq_ok.mp hb with ⟨a, ha, hg⟩
  exact h a ha b hg

@[simp] theorem ensures_except_map {f : α → β} :
    Ensures (Except.map f r) R ↔ Ensures r fun a => R (f a) := by
  cases r with
  | ok a =>
    show Ensures (.ok (f a)) R ↔ _
    rw [ensures_ok, ensures_ok]
  | error e => exact iff_of_true ensures_error ensures_error

@[simp] theorem ensures_mapError {f : Error → Error} : Ensures (r.mapError f) P ↔ Ensures r P := by
  cases r with
  | ok a => exact Iff.rfl
  | error e => exact iff_of_true ensures_error ensures_error

@[simp] theorem ensures_ite {p : Prop} [Decidable p] {s : Result α} :
    Ensures (if p then r else s) P ↔ (p → Ensures r P) ∧ (¬ p → Ensures s P) := by
  by_cases hp : p
  · simp [hp]
  · simp [hp]

theorem Ensures.mono (h : Ensures r P) (hPQ : ∀ a, P a → Q a) : Ensures r Q :=
  fun a ha => hPQ a (h a ha)

/-- A property of all values is one of those that a computation gives. -/
theorem ensures_of_forall (h : ∀ a, P a) : Ensures r P := fun a _ => h a

/-- What is done last decides, if it ensures the property whatever comes before. -/
theorem ensures_bind_of_forall (h : ∀ a, Ensures (g a) R) : Ensures (r >>= g) R :=
  ensures_bind.mpr (ensures_of_forall h)

/-- If the function ensures a property for each element, all its values have it. -/
theorem ensures_mapM {l : List α} (h : ∀ a ∈ l, Ensures (g a) R) :
    Ensures (l.mapM g) fun out => ∀ b ∈ out, R b := by
  induction l with
  | nil => exact ensures_ok.mpr (List.forall_mem_nil R)
  | cons a l ih =>
    rw [List.mapM_cons, ensures_bind]
    intro b hb
    rw [ensures_bind]
    intro out hout
    refine ensures_pure.mpr (List.forall_mem_cons.mpr ⟨?_, ?_⟩)
    · exact h a List.mem_cons_self b hb
    · exact ih (fun c hc => h c (List.mem_cons_of_mem a hc)) out hout

end Combinators

end XPath
