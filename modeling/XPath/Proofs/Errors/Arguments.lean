import XPath.Function.Arguments
import XPath.Function.Call
import XPath.Proofs.Errors.Values

/-!
# Nodes and arguments without static errors

Comparing and sorting nodes, the truth of sequences, the collation and the nodes that a call takes,
and the conversion of its arguments.
-/

namespace XPath

/-! ## 1. Nodes and sequences -/

section Nodes

variable (m n : Node)

@[simp] theorem kind_noDocumentOrder : Error.noDocumentOrder.kind = .dynamic := Error.kind_of _ _

@[simp] theorem notStatic_compareWays (last? : Option Node) (as bs : List Node) :
    NotStatic (Node.compareWays last? as bs) := by
  induction as generalizing last? bs with
  | nil => cases bs <;> simp [Node.compareWays]
  | cons a as ih =>
    cases bs with
    | nil => simp [Node.compareWays]
    | cons b bs =>
      unfold Node.compareWays
      rw [notStatic_ite]
      refine ⟨fun _ => ih _ bs, fun _ => ?_⟩
      split <;> simp

@[simp] theorem notStatic_node_compare : NotStatic (m.compare n) := by
  simp [Node.compare, Node.compareByAncestry]

@[simp] theorem notStatic_place? (sorted : Array Node) (lo hi : Nat) (h : hi ≤ sorted.size) :
    NotStatic (Node.place? sorted n lo hi h) := by
  induction lo, hi, h using Node.place?.induct sorted with
  | case1 lo hi h hlt ihlt ihgt =>
    rw [Node.place?, dif_pos hlt, notStatic_bind]
    refine ⟨notStatic_node_compare _ _, fun o _ => ?_⟩
    cases o with
    | lt => exact ihlt
    | gt => exact ihgt
    | eq => exact notStatic_pure _
  | case2 lo hi h hlt =>
    rw [Node.place?, dif_neg hlt]
    exact notStatic_pure _

@[simp] theorem notStatic_insertDistinct (sorted : Array Node) :
    NotStatic (Node.insertDistinct sorted n) := by
  unfold Node.insertDistinct
  split
  · simp
  · rw [notStatic_bind]
    refine ⟨notStatic_node_compare _ _, fun o _ => ?_⟩
    cases o with
    | lt => exact notStatic_pure _
    | eq => exact notStatic_pure _
    | gt =>
      rw [notStatic_bind]
      refine ⟨notStatic_place? _ _ _ _ _, fun i _ => ?_⟩
      cases i with
      | none => exact notStatic_pure _
      | some i => exact notStatic_pure _

@[simp] theorem notStatic_node_sortDistinct (l : List Node) : NotStatic (Node.sortDistinct l) := by
  unfold Node.sortDistinct
  split
  · simp
  · simp
  · rw [notStatic_except_map]
    exact notStatic_foldlM (fun s n _ => notStatic_insertDistinct n s) #[]

variable (s : Sequence) (what : String)

@[simp] theorem notStatic_truth : NotStatic (Sequence.truth s) := by
  unfold Sequence.truth
  split
  case h_3 =>
    unfold Sequence.truthOfAtomic
    split <;> simp
  all_goals simp

@[simp] theorem notStatic_atMostOne : NotStatic (Sequence.atMostOne s what) := by
  unfold Sequence.atMostOne
  split <;> simp

@[simp] theorem notStatic_nodes : NotStatic (Sequence.nodes s) := by
  apply notStatic_mapM
  intro i _
  cases i <;> simp

@[simp] theorem notStatic_sortDistinct : NotStatic (Sequence.sortDistinct s) := by
  simp [Sequence.sortDistinct]

@[simp] theorem notStatic_check (t : SequenceType) : NotStatic (t.check s) := by
  simp [SequenceType.check]

@[simp] theorem notStatic_collationOf (r : Collations) (u : String) : NotStatic (r.get u) := by
  unfold Collations.get
  split <;> simp

end Nodes

/-! ## 2. Arguments -/

section Arguments

variable (call : Call) (args : List Sequence) (i : Nat)

@[simp] theorem kind_call_typeError (m : String) : (call.typeError m).kind = .type :=
  Error.kind_of _ _

@[simp] theorem notStatic_focusOrError : NotStatic call.focusOrError := by
  unfold Call.focusOrError
  split <;> simp

@[simp] theorem notStatic_contextItem : NotStatic call.contextItem := by
  simp [Call.contextItem]

@[simp] theorem notStatic_collationArgument : NotStatic (call.collationArgument args i) := by
  unfold Call.collationArgument
  split <;> simp

@[simp] theorem notStatic_nodeArgument : NotStatic (call.nodeArgument args i) := by
  unfold Call.nodeArgument
  split
  all_goals
    show NotStatic (_ >>= _)
    rw [notStatic_bind]
    refine ⟨by simp, fun item _ => ?_⟩
    dsimp only
    split <;> simp

@[simp] theorem notStatic_textArgument : NotStatic (call.textArgument args i) := by
  unfold Call.textArgument
  split <;> simp

theorem notStatic_convertTo {t : AtomicType} (h : t ≠ .anyAtomic) (v : Atomic) :
    NotStatic (ParameterItem.convertTo t v) := by
  have hcast := notStatic_cast v t none h
  unfold ParameterItem.convertTo
  rw [notStatic_ite, notStatic_ite]
  refine ⟨fun _ => hcast, fun _ => ⟨fun _ => notStatic_ok v, fun _ => ?_⟩⟩
  split
  · exact hcast
  · exact hcast
  · simp
  · simp

@[simp] theorem notStatic_convertToNumeric (v : Atomic) :
    NotStatic (ParameterItem.convertToNumeric v) := by
  unfold ParameterItem.convertToNumeric
  split
  · exact notStatic_cast _ _ _ (by simp)
  all_goals simp

theorem notStatic_convertEach {convert : Atomic → Result Atomic}
    (h : ∀ v, NotStatic (convert v)) (s : Sequence) :
    NotStatic (ParameterItem.convertEach convert s) :=
  notStatic_mapM fun v _ => notStatic_except_map.mpr (h v)

/-- The conversion of arguments can fail with a static error only by a parameter of the abstract
root type. -/
theorem notStatic_convert_parameter {p : ParameterType} (h : p.item ≠ .atomic .anyAtomic)
    (s : Sequence) : NotStatic (p.convert s) := by
  unfold ParameterType.convert
  rw [notStatic_bind]
  refine ⟨?_, ?_⟩
  · unfold ParameterItem.convertItems
    split
    · simp
    · split <;> simp
    · exact notStatic_convertEach (fun v => notStatic_ok v) s
    · rename_i t ht
      exact notStatic_convertEach (notStatic_convertTo fun he => h (by rw [ht, he])) s
    · exact notStatic_convertEach notStatic_convertToNumeric s
  · intro converted _
    simp

theorem mem_parameters {s : Signature} {p : ParameterType} (h : s.parameter? i = some p) :
    p ∈ s.parameters := by
  unfold Signature.parameter? at h
  split at h
  · rename_i q hq
    cases h
    exact List.mem_of_getElem? hq
  · split at h
    · exact List.mem_of_getLast? h
    · cases h

theorem notStatic_convertArgument {s : Signature}
    (h : ∀ p ∈ s.parameters, p.item ≠ .atomic .anyAtomic) (arg : Sequence) :
    NotStatic (s.convertArgument i arg) := by
  unfold Signature.convertArgument
  split
  · rename_i p hp
    have hconvert := notStatic_convert_parameter (h p (mem_parameters i hp)) arg
    rw [notStatic_mapError]
    intro e he
    unfold Signature.atArgument
    split
    · simp
    · exact hconvert e he
  · simp

theorem notStatic_convertArguments {s : Signature}
    (h : ∀ p ∈ s.parameters, p.item ≠ .atomic .anyAtomic) :
    NotStatic (s.convertArguments args) := by
  -- the arguments are converted one after the other, each for the parameter of its place
  have hfrom : ∀ i, NotStatic (s.convertFrom i args) := by
    induction args with
    | nil => exact fun _ => notStatic_ok _
    | cons arg rest ih =>
      intro i
      have harg := notStatic_convertArgument i h arg
      have hrest := ih (i + 1)
      rw [Signature.convertFrom]
      simp [harg, hrest]
  exact hfrom 0

end Arguments

end XPath
