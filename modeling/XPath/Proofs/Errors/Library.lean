import XPath.Proofs.Errors.Arguments
import XPath.Proofs.Errors.Provider
import XPath.Proofs.Resolution

/-!
# Functions of the library raise no static errors

Every function of the library but `fn:error` fails with type errors and dynamic errors alone.
Documents, collections and the operations with regular expressions may come from a host, which may
raise any error; here there are no documents, and the operations raise no static errors.
-/

namespace XPath

/-- The host supplies no documents, and no operations that raise static errors. -/
structure DynamicContext.HostNotStatic (d : DynamicContext) : Prop where
  documents : d.documents = {}
  regex : d.regex.RaisesNoStatic

/-- The function raises no static errors of its own. -/
def BodyNotStatic (body : FunctionBody) : Prop :=
  ∀ call args, call.dynamic.HostNotStatic → NotStatic (body call args)

/-! ## 1. Aggregates -/

namespace Aggregate

variable (function : String) (values : List Atomic) (tz : TimeZone) (c : Collation)
  (op : Comparison)

@[simp] theorem kind_aggregate (v : Atomic) : (Error.aggregate function v).kind = .dynamic :=
  Error.kind_of _ _

@[simp] theorem notStatic_input (s : Sequence) : NotStatic (input s) := by
  apply notStatic_mapM
  intro v _
  rw [notStatic_ite]
  exact ⟨fun _ => notStatic_cast v _ _ (by simp), fun _ => notStatic_ok v⟩

@[simp] theorem notStatic_checkSummable : NotStatic (checkSummable function values) := by
  unfold checkSummable
  split
  · simp
  · split <;> simp

@[simp] theorem notStatic_total : NotStatic (total values tz) := by
  unfold total
  split
  · simp
  · rw [notStatic_except_map]
    exact notStatic_foldlM (fun v w _ => notStatic_arithmetic _ v w tz) _

@[simp] theorem notStatic_unifyNumbers : NotStatic (unifyNumbers values) := by
  unfold unifyNumbers
  split
  · simp
  · exact notStatic_mapM fun n _ => by simp

@[simp] theorem notStatic_orAggregate {α : Type} (v : Atomic) {r : Result α} (h : NotStatic r) :
    NotStatic (orAggregate function v r) := by
  unfold orAggregate
  rw [notStatic_mapError]
  intro e he
  split
  · simp
  · exact h e he

@[simp] theorem notStatic_better (best v : Atomic) :
    NotStatic (better function op c tz best v) := by
  simp [better]

@[simp] theorem notStatic_extreme : NotStatic (extreme function op values c tz) := by
  unfold extreme
  rw [notStatic_bind]
  refine ⟨notStatic_unifyNumbers values, fun numbers _ => ?_⟩
  split
  · simp
  -- the first value is compared with all others in turn
  · rename_i v r _
    have hfold : NotStatic (r.foldlM (better function op c tz) v) :=
      notStatic_foldlM (fun best w _ => notStatic_better function tz c op best w) v
    simp [hfold]

end Aggregate

namespace Library

theorem notStatic_sumOf : BodyNotStatic sumOf := by
  intro call args _
  unfold sumOf
  simp only [notStatic_bind, Aggregate.notStatic_input, Aggregate.notStatic_checkSummable,
    Aggregate.notStatic_total, true_and]
  intro values _ _ _ total _
  split <;> simp

theorem notStatic_averageOf : BodyNotStatic averageOf := by
  intro call args _
  unfold averageOf
  simp only [notStatic_bind, Aggregate.notStatic_input, Aggregate.notStatic_checkSummable,
    Aggregate.notStatic_total, true_and]
  intro values _ _ _ total _
  split <;> simp

theorem notStatic_extreme (function : String) (op : Comparison) :
    BodyNotStatic (extreme function op) := by
  intro call args _
  simp [extreme]

/-! ## 2. Constructors, dates and names -/

theorem notStatic_construct {t : AtomicType} (h : t ≠ .anyAtomic) :
    BodyNotStatic (construct t) := by
  intro call args _
  unfold construct
  split
  · simp
  · rename_i v _
    simp [notStatic_cast v t _ h]

@[simp] theorem notStatic_targetZone (call : Call) (args : List Sequence) :
    NotStatic (targetZone call args) := by
  unfold targetZone
  split
  · simp
  · split <;> simp

theorem notStatic_adjustDateTime : BodyNotStatic adjustDateTime := by
  intro call args _
  unfold adjustDateTime
  split <;> simp

theorem notStatic_adjustDate : BodyNotStatic adjustDate := by
  intro call args _
  unfold adjustDate
  split <;> simp

theorem notStatic_adjustTime : BodyNotStatic adjustTime := by
  intro call args _
  unfold adjustTime
  split <;> simp

theorem notStatic_makeDateTime : BodyNotStatic makeDateTime := by
  intro call args _
  unfold makeDateTime
  split <;> simp

@[simp] theorem notStatic_splitName (lexical : String) : NotStatic (splitName lexical) := by
  simp only [splitName]
  split <;> simp [Error.invalidName]

@[simp] theorem notStatic_elementArgument (call : Call) (args : List Sequence) (i : Nat) :
    NotStatic (elementArgument call args i) := by
  unfold elementArgument
  split <;> simp

theorem notStatic_resolveQName : BodyNotStatic resolveQName := by
  intro call args _
  unfold resolveQName
  split
  · simp
  · simp only [notStatic_bind, notStatic_elementArgument, notStatic_splitName, true_and]
    intro element _ name _
    split
    · simp
    · split <;> simp

theorem notStatic_makeQName : BodyNotStatic makeQName := by
  intro call args _
  simp [makeQName]

theorem notStatic_namespaceUriForPrefix : BodyNotStatic namespaceUriForPrefix := by
  intro call args _
  simp [namespaceUriForPrefix]

theorem notStatic_inScopePrefixes : BodyNotStatic inScopePrefixes := by
  intro call args _
  simp [inScopePrefixes]

/-! ## 3. Nodes and documents -/

theorem notStatic_nilled : BodyNotStatic nilled := by
  intro call args _
  unfold nilled
  split <;> simp

theorem notStatic_hasLanguage : BodyNotStatic hasLanguage := by
  intro call args _
  unfold hasLanguage
  rw [notStatic_bind]
  refine ⟨notStatic_nodeArgument call args 1, fun n _ => ?_⟩
  split <;> simp

@[simp] theorem notStatic_documentRoot (n : Node) : NotStatic n.documentRoot := by
  simp [Node.documentRoot]

theorem notStatic_searchDocument (search : Node → List (List Char) → List Node) :
    BodyNotStatic (searchDocument search) := by
  intro call args _
  unfold searchDocument
  rw [notStatic_bind]
  refine ⟨notStatic_nodeArgument call args 1, fun n _ => ?_⟩
  split <;> simp

@[simp] theorem notStatic_resolve (reference : String) (base? : Option String) :
    NotStatic (Uri.resolve reference base?) := by
  unfold Uri.resolve
  split
  · simp
  · split
    · simp [Error.noBaseUri]
    · split <;> simp [Error.unresolvable]

theorem notStatic_absoluteUri (call : Call) {code : ErrorCode} (h : code.kind ≠ .static)
    (uri : String) : NotStatic (absoluteUri call code uri) := by
  unfold absoluteUri
  rw [notStatic_mapError]
  intro e _
  rw [Error.invalidUri, Error.kind_of]
  exact h

theorem notStatic_resolvedUri : BodyNotStatic resolvedUri := by
  intro call args _
  unfold resolvedUri
  split <;> simp

theorem notStatic_documentAt : BodyNotStatic documentAt := by
  intro call args hhost
  unfold documentAt
  split
  · simp
  · rename_i uri _
    have huri := notStatic_absoluteUri call (show ErrorCode.kind .FODC0005 ≠ .static by simp) uri
    simp [huri, DynamicContext.document, hhost.documents]

theorem notStatic_documentAvailable : BodyNotStatic documentAvailable := by
  intro call args _
  unfold documentAvailable
  split
  · simp
  · rename_i uri _
    have huri := notStatic_absoluteUri call (show ErrorCode.kind .FODC0005 ≠ .static by simp) uri
    simp [huri]

theorem notStatic_collectionAt : BodyNotStatic collectionAt := by
  intro call args hhost
  unfold collectionAt
  rw [notStatic_bind]
  refine ⟨notStatic_optionMapM fun uri => notStatic_absoluteUri call (by simp) uri,
    fun uri? _ => ?_⟩
  simp [DynamicContext.collection, hhost.documents]

theorem notStatic_stringOf : BodyNotStatic stringOf := by
  intro call args _
  simp [stringOf]

theorem notStatic_baseUriOf : BodyNotStatic baseUriOf := by
  intro call args _
  simp [baseUriOf]

theorem notStatic_nameOf : BodyNotStatic nameOf := by
  intro call args _
  simp [nameOf]

theorem notStatic_localNameOf : BodyNotStatic localNameOf := by
  intro call args _
  simp [localNameOf]

theorem notStatic_namespaceUriOf : BodyNotStatic namespaceUriOf := by
  intro call args _
  simp [namespaceUriOf]

theorem notStatic_rootOf : BodyNotStatic rootOf := by
  intro call args _
  simp [rootOf]

theorem notStatic_focusPosition : BodyNotStatic focusPosition := by
  intro call args _
  simp [focusPosition]

theorem notStatic_focusLast : BodyNotStatic focusLast := by
  intro call args _
  simp [focusLast]

/-! ## 4. Numbers, strings and sequences -/

theorem notStatic_numberOf : BodyNotStatic numberOf := by
  intro call args _
  unfold numberOf
  -- what is done with the values does not depend on where they come from
  split
  all_goals
    show NotStatic (_ >>= _)
    rw [notStatic_bind]
    refine ⟨by simp, fun values _ => ?_⟩
    dsimp only
    split
    · split <;> simp
    · simp

theorem notStatic_matchesPattern : BodyNotStatic matchesPattern := by
  intro call args hhost
  simp [matchesPattern, hhost.regex.isMatch]

theorem notStatic_replaced : BodyNotStatic replaced := by
  intro call args hhost
  simp [replaced, hhost.regex.replace]

theorem notStatic_tokenized : BodyNotStatic tokenized := by
  intro call args hhost
  simp [tokenized, hhost.regex.tokenize]

@[simp] theorem notStatic_charOf (i : Item) : NotStatic (charOf i) := by
  unfold charOf
  split <;> simp

theorem notStatic_codepointsToString : BodyNotStatic codepointsToString := by
  intro call args _
  have hchars : NotStatic ((Arguments.get args 0).mapM charOf) :=
    notStatic_mapM fun i _ => notStatic_charOf i
  simp [codepointsToString, hchars]

theorem notStatic_compareTexts : BodyNotStatic compareTexts := by
  intro call args _
  unfold compareTexts
  rw [notStatic_bind]
  refine ⟨notStatic_collationArgument call args 2, fun c _ => ?_⟩
  split <;> simp

theorem notStatic_codepointEqual : BodyNotStatic codepointEqual := by
  intro call args _
  unfold codepointEqual
  split <;> simp

theorem notStatic_stringLength : BodyNotStatic stringLength := by
  intro call args _
  simp [stringLength]

theorem notStatic_normalizeSpace : BodyNotStatic normalizeSpace := by
  intro call args _
  simp [normalizeSpace]

theorem notStatic_normalizeUnicode : BodyNotStatic normalizeUnicode := by
  intro call args _
  simp only [normalizeUnicode]
  split
  all_goals
    rw [notStatic_ite]
    refine ⟨fun _ => notStatic_ok _, fun _ => ?_⟩
    split <;> simp

theorem notStatic_underCollation (f : Collation → List Char → List Char → Sequence) :
    BodyNotStatic (underCollation f) := by
  intro call args _
  simp [underCollation]

theorem notStatic_indexOf : BodyNotStatic indexOf := by
  intro call args _
  unfold indexOf
  rw [notStatic_bind]
  refine ⟨notStatic_collationArgument call args 2, fun c _ => ?_⟩
  split <;> simp

theorem notStatic_distinctValues : BodyNotStatic distinctValues := by
  intro call args _
  simp [distinctValues]

theorem notStatic_zeroOrOne : BodyNotStatic zeroOrOne := by
  intro call args _
  simp [zeroOrOne]

theorem notStatic_oneOrMore : BodyNotStatic oneOrMore := by
  intro call args _
  simp [oneOrMore]

theorem notStatic_exactlyOne : BodyNotStatic exactlyOne := by
  intro call args _
  simp [exactlyOne]

theorem notStatic_deepEqual : BodyNotStatic deepEqual := by
  intro call args _
  simp [deepEqual]

theorem notStatic_negation : BodyNotStatic negation := by
  intro call args _
  simp [negation]

theorem notStatic_effectiveBoolean : BodyNotStatic effectiveBoolean := by
  intro call args _
  simp [effectiveBoolean]

/-! ## 5. The table -/

/-- The function does not fail at all. -/
theorem notStatic_of_ok {body : FunctionBody} {f : Call → List Sequence → Sequence}
    (h : ∀ call args, body call args = .ok (f call args)) : BodyNotStatic body := by
  intro call args _
  rw [h]
  exact notStatic_ok _

theorem notStatic_accessorsTable : ∀ f ∈ accessorsTable, BodyNotStatic f.body := by
  simp only [accessorsTable, List.forall_mem_cons]
  exact ⟨notStatic_of_ok fun _ _ => rfl, notStatic_nilled, notStatic_stringOf,
    notStatic_of_ok fun _ _ => rfl, notStatic_baseUriOf, notStatic_of_ok fun _ _ => rfl,
    List.forall_mem_nil _⟩

theorem notStatic_diagnosticsTable :
    ∀ f ∈ diagnosticsTable, f.signature.name ≠ errorName → BodyNotStatic f.body := by
  simp only [diagnosticsTable, List.forall_mem_cons]
  exact ⟨fun h => absurd rfl h, fun _ => notStatic_of_ok fun _ _ => rfl, List.forall_mem_nil _⟩

theorem notStatic_numbersTable : ∀ f ∈ numbersTable, BodyNotStatic f.body := by
  simp only [numbersTable, List.forall_mem_cons]
  exact ⟨notStatic_of_ok fun _ _ => rfl, notStatic_of_ok fun _ _ => rfl,
    notStatic_of_ok fun _ _ => rfl, notStatic_of_ok fun _ _ => rfl,
    notStatic_of_ok fun _ _ => rfl, notStatic_numberOf, List.forall_mem_nil _⟩

theorem notStatic_stringsTable : ∀ f ∈ stringsTable, BodyNotStatic f.body := by
  simp only [stringsTable, List.forall_mem_cons]
  exact ⟨notStatic_codepointsToString, notStatic_of_ok fun _ _ => rfl, notStatic_compareTexts,
    notStatic_codepointEqual, notStatic_of_ok fun _ _ => rfl, notStatic_of_ok fun _ _ => rfl,
    notStatic_of_ok fun _ _ => rfl, notStatic_stringLength, notStatic_normalizeSpace,
    notStatic_normalizeUnicode, notStatic_of_ok fun _ _ => rfl, notStatic_of_ok fun _ _ => rfl,
    notStatic_of_ok fun _ _ => rfl, notStatic_of_ok fun _ _ => rfl,
    notStatic_of_ok fun _ _ => rfl, notStatic_of_ok fun _ _ => rfl,
    show BodyNotStatic containsText from notStatic_underCollation _,
    show BodyNotStatic startsWithText from notStatic_underCollation _,
    show BodyNotStatic endsWithText from notStatic_underCollation _,
    show BodyNotStatic substringBefore from notStatic_underCollation _,
    show BodyNotStatic substringAfter from notStatic_underCollation _,
    notStatic_matchesPattern, notStatic_replaced, notStatic_tokenized, notStatic_resolvedUri,
    List.forall_mem_nil _⟩

theorem notStatic_booleansTable : ∀ f ∈ booleansTable, BodyNotStatic f.body := by
  simp only [booleansTable, List.forall_mem_cons]
  exact ⟨notStatic_of_ok fun _ _ => rfl, notStatic_of_ok fun _ _ => rfl, notStatic_negation,
    notStatic_effectiveBoolean, List.forall_mem_nil _⟩

theorem notStatic_durationsTable : ∀ f ∈ durationsTable, BodyNotStatic f.body := by
  simp only [durationsTable, List.forall_mem_cons]
  exact ⟨notStatic_of_ok fun _ _ => rfl, notStatic_of_ok fun _ _ => rfl,
    notStatic_of_ok fun _ _ => rfl, notStatic_of_ok fun _ _ => rfl,
    notStatic_of_ok fun _ _ => rfl, notStatic_of_ok fun _ _ => rfl, List.forall_mem_nil _⟩

/-- Components do not fail. -/
theorem notStatic_ofDateTime (f : DateTime → Option Atomic) : BodyNotStatic (ofDateTime f) :=
  notStatic_of_ok fun _ _ => rfl

theorem notStatic_ofDate (f : Date → Option Atomic) : BodyNotStatic (ofDate f) :=
  notStatic_of_ok fun _ _ => rfl

theorem notStatic_ofTime (f : Time → Option Atomic) : BodyNotStatic (ofTime f) :=
  notStatic_of_ok fun _ _ => rfl

theorem notStatic_datesTable : ∀ f ∈ datesTable, BodyNotStatic f.body := by
  simp only [datesTable, List.forall_mem_cons]
  exact ⟨notStatic_ofDateTime _, notStatic_ofDateTime _, notStatic_ofDateTime _,
    notStatic_ofDateTime _, notStatic_ofDateTime _, notStatic_ofDateTime _,
    notStatic_ofDateTime _, notStatic_ofDate _, notStatic_ofDate _, notStatic_ofDate _,
    notStatic_ofDate _, notStatic_ofTime _, notStatic_ofTime _, notStatic_ofTime _,
    notStatic_ofTime _, notStatic_adjustDateTime, notStatic_adjustDate, notStatic_adjustTime,
    notStatic_makeDateTime, List.forall_mem_nil _⟩

theorem notStatic_namesTable : ∀ f ∈ namesTable, BodyNotStatic f.body := by
  simp only [namesTable, List.forall_mem_cons]
  exact ⟨notStatic_resolveQName, notStatic_makeQName, notStatic_of_ok fun _ _ => rfl,
    notStatic_of_ok fun _ _ => rfl, notStatic_of_ok fun _ _ => rfl,
    notStatic_namespaceUriForPrefix, notStatic_inScopePrefixes, List.forall_mem_nil _⟩

theorem notStatic_nodesTable : ∀ f ∈ nodesTable, BodyNotStatic f.body := by
  simp only [nodesTable, List.forall_mem_cons]
  exact ⟨notStatic_nameOf, notStatic_localNameOf, notStatic_namespaceUriOf, notStatic_hasLanguage,
    notStatic_rootOf, List.forall_mem_nil _⟩

theorem notStatic_sequencesTable : ∀ f ∈ sequencesTable, BodyNotStatic f.body := by
  simp only [sequencesTable, List.forall_mem_cons]
  exact ⟨notStatic_indexOf, notStatic_of_ok fun _ _ => rfl, notStatic_of_ok fun _ _ => rfl,
    notStatic_distinctValues, notStatic_of_ok fun _ _ => rfl, notStatic_of_ok fun _ _ => rfl,
    notStatic_of_ok fun _ _ => rfl, notStatic_of_ok fun _ _ => rfl,
    notStatic_of_ok fun _ _ => rfl, notStatic_zeroOrOne, notStatic_oneOrMore,
    notStatic_exactlyOne, notStatic_deepEqual, notStatic_of_ok fun _ _ => rfl,
    notStatic_averageOf, notStatic_extreme _ _, notStatic_extreme _ _, notStatic_sumOf,
    notStatic_searchDocument _, notStatic_searchDocument _, notStatic_documentAt,
    notStatic_documentAvailable, notStatic_collectionAt, List.forall_mem_nil _⟩

theorem notStatic_contextsTable : ∀ f ∈ contextsTable, BodyNotStatic f.body := by
  simp only [contextsTable, List.forall_mem_cons]
  exact ⟨notStatic_focusPosition, notStatic_focusLast, notStatic_of_ok fun _ _ => rfl,
    notStatic_of_ok fun _ _ => rfl, notStatic_of_ok fun _ _ => rfl,
    notStatic_of_ok fun _ _ => rfl, notStatic_of_ok fun _ _ => rfl,
    notStatic_of_ok fun _ _ => rfl, List.forall_mem_nil _⟩

theorem notStatic_constructorsTable : ∀ f ∈ constructorsTable, BodyNotStatic f.body := by
  intro f hf
  rcases List.mem_map.mp hf with ⟨t, ht, rfl⟩
  have htarget := (List.mem_filter.mp ht).2
  exact notStatic_construct (by simpa [AtomicType.isCastTarget] using htarget)

/-- Only `fn:error` raises static errors, if it is asked to. -/
theorem notStatic_table : ∀ f ∈ table, f.signature.name ≠ errorName → BodyNotStatic f.body := by
  intro f hf hname
  -- the table is made of parts, one for each group of functions
  simp only [table, List.mem_append] at hf
  rcases hf with ((((((((((( h | h) | h) | h) | h) | h) | h) | h) | h) | h) | h) | h)
  · exact notStatic_accessorsTable f h
  · exact notStatic_diagnosticsTable f h hname
  · exact notStatic_numbersTable f h
  · exact notStatic_stringsTable f h
  · exact notStatic_booleansTable f h
  · exact notStatic_durationsTable f h
  · exact notStatic_datesTable f h
  · exact notStatic_namesTable f h
  · exact notStatic_nodesTable f h
  · exact notStatic_sequencesTable f h
  · exact notStatic_contextsTable f h
  · exact notStatic_constructorsTable f h

/-- No parameter of the library has the abstract root as its type. -/
theorem parameter_ne_anyAtomic {f : LibraryFunction} (hf : f ∈ table) :
    ∀ p ∈ f.signature.parameters, p.item ≠ .atomic .anyAtomic := by
  have hall : table.all (fun f => f.signature.parameters.all
      fun p => p.item != .atomic .anyAtomic) = true := by decide +kernel
  intro p hp
  have hf' := List.all_eq_true.mp hall f hf
  have hp' := List.all_eq_true.mp hf' p hp
  simpa using hp'

end Library

end XPath
