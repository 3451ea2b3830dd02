import Mathlib.Data.List.Forall2
import XPath.Proofs.Result
import XPath.Query

/-!
# Binding fills in namespaces

A bound expression differs from the expression in the namespaces of its names alone.  Two functions
on expressions say so: the first forgets all namespaces, and gives the same for both; the second
lists whatever has a namespace, in the order in which it is written, and the lists of both go
together name by name.
-/

namespace XPath

/-! ## 1. Forgetting namespaces -/

/-- The name as it is written. -/
def QName.erase (q : QName) : QName := { q with namespaceUri := none }

def NameTest.erase : NameTest → NameTest
  | .name q => .name q.erase
  | .inNamespace _ => .inNamespace ""
  | t => t

def TestedName.erase : TestedName → TestedName
  | .name q => .name q.erase
  | .any => .any

def KindTest.erase : KindTest → KindTest
  | .documentOf t => .documentOf t.erase
  | .element name type nillable =>
    .element (name.map TestedName.erase) (type.map QName.erase) nillable
  | .attributeNode name type => .attributeNode (name.map TestedName.erase) (type.map QName.erase)
  | t => t

def NodeTest.erase : NodeTest → NodeTest
  | .name t => .name t.erase
  | .kind t => .kind t.erase

def ItemType.erase : ItemType → ItemType
  | .kind t => .kind t.erase
  | .atomic q => .atomic q.erase
  | t => t

def SequenceType.erase : SequenceType → SequenceType
  | .items t o => .items t.erase o
  | .empty => .empty

def CastTarget.erase (t : CastTarget) : CastTarget := { t with type := t.type.erase }

mutual

/-- The expression without the namespaces of its names. -/
def Expr.erase : Expr → Expr
  | .literal l => .literal l
  | .var q => .var q.erase
  | .contextItem => .contextItem
  | .call q args => .call q.erase (eraseAll args)
  | .sequence items => .sequence (eraseAll items)
  | .range a b => .range a.erase b.erase
  | .arithmetic op a b => .arithmetic op a.erase b.erase
  | .and a b => .and a.erase b.erase
  | .or a b => .or a.erase b.erase
  | .signed sign a => .signed sign a.erase
  | .generalComparison op a b => .generalComparison op a.erase b.erase
  | .valueComparison op a b => .valueComparison op a.erase b.erase
  | .nodeComparison op a b => .nodeComparison op a.erase b.erase
  | .path start steps => .path start (eraseSteps steps)
  | .filter a ps => .filter a.erase (eraseAll ps)
  | .ifThenElse a b c => .ifThenElse a.erase b.erase c.erase
  | .forEach bs e => .forEach (eraseBindings bs) e.erase
  | .letIn bs e => .letIn (eraseBindings bs) e.erase
  | .quantified q bs e => .quantified q (eraseBindings bs) e.erase
  | .instanceOf a t => .instanceOf a.erase t.erase
  | .treatAs a t => .treatAs a.erase t.erase
  | .castAs a t => .castAs a.erase t.erase
  | .castableAs a t => .castableAs a.erase t.erase
  | .setOperation op a b => .setOperation op a.erase b.erase
  | .typeswitch a cases v d => .typeswitch a.erase (eraseCases cases) (v.map QName.erase) d.erase

def eraseAll : List Expr → List Expr
  | [] => []
  | e :: r => e.erase :: eraseAll r

def eraseSteps : List Step → List Step
  | [] => []
  | .axis axis test ps :: r => .axis axis test.erase (eraseAll ps) :: eraseSteps r
  | .expr e :: r => .expr e.erase :: eraseSteps r

def eraseBindings : List Binding → List Binding
  | [] => []
  | .mk q e :: r => .mk q.erase e.erase :: eraseBindings r

def eraseCases : List Case → List Case
  | [] => []
  | .mk v t e :: r => .mk (v.map QName.erase) t.erase e.erase :: eraseCases r

end

/-! ## 2. What has a namespace -/

/-- A name, or a test for all names in a namespace.  The latter is written with a prefix. -/
inductive Mention where
  | name (q : QName)
  | wildcard (uri : String)
  deriving DecidableEq, Repr

/-- The prefix that is mentioned. -/
def Mention.pre? : Mention → Option String
  | .name q => q.pre?
  | .wildcard p => some p

def NameTest.mentions : NameTest → List Mention
  | .name q => [.name q]
  | .inNamespace uri => [.wildcard uri]
  | .any | .withLocalName _ => []

def TestedName.mentions : TestedName → List Mention
  | .name q => [.name q]
  | .any => []

def mentionsOfOptional (q : Option QName) : List Mention := q.toList.map Mention.name

def KindTest.mentions : KindTest → List Mention
  | .documentOf t => t.mentions
  | .element name type _ | .attributeNode name type =>
    name.toList.flatMap TestedName.mentions ++ mentionsOfOptional type
  | .node | .document | .text | .comment | .processingInstruction _ => []

def NodeTest.mentions : NodeTest → List Mention
  | .name t => t.mentions
  | .kind t => t.mentions

def SequenceType.mentions : SequenceType → List Mention
  | .items (.kind t) _ => t.mentions
  | .items (.atomic q) _ => [.name q]
  | .items .item _ | .items .node _ | .empty => []

def CastTarget.mentions (t : CastTarget) : List Mention := [.name t.type]

mutual

/-- All names and tests for names in a namespace, in the order in which they are written. -/
def Expr.mentions : Expr → List Mention
  | .literal _ | .contextItem => []
  | .var q => [.name q]
  | .call q args => .name q :: mentionsOfAll args
  | .sequence items => mentionsOfAll items
  | .range a b | .and a b | .or a b => a.mentions ++ b.mentions
  | .arithmetic _ a b | .generalComparison _ a b | .valueComparison _ a b
  | .nodeComparison _ a b | .setOperation _ a b => a.mentions ++ b.mentions
  | .signed _ a => a.mentions
  | .path _ steps => mentionsOfSteps steps
  | .filter a ps => a.mentions ++ mentionsOfAll ps
  | .ifThenElse a b c => a.mentions ++ (b.mentions ++ c.mentions)
  | .forEach bs e | .letIn bs e | .quantified _ bs e => mentionsOfBindings bs ++ e.mentions
  | .instanceOf a t | .treatAs a t => a.mentions ++ t.mentions
  | .castAs a t | .castableAs a t => a.mentions ++ t.mentions
  | .typeswitch a cases v d =>
    a.mentions ++ (mentionsOfCases cases ++ (mentionsOfOptional v ++ d.mentions))

def mentionsOfAll : List Expr → List Mention
  | [] => []
  | e :: r => e.mentions ++ mentionsOfAll r

def mentionsOfSteps : List Step → List Mention
  | [] => []
  | .axis _ test ps :: r => (test.mentions ++ mentionsOfAll ps) ++ mentionsOfSteps r
  | .expr e :: r => e.mentions ++ mentionsOfSteps r

def mentionsOfBindings : List Binding → List Mention
  | [] => []
  | .mk q e :: r => (.name q :: e.mentions) ++ mentionsOfBindings r

def mentionsOfCases : List Case → List Mention
  | [] => []
  | .mk v t e :: r => (mentionsOfOptional v ++ (t.mentions ++ e.mentions)) ++ mentionsOfCases r

end

/-! ## 3. Filling in -/

namespace StaticContext

variable (c : StaticContext)

/-- The second name is the first with its namespace: with a prefix the one that the prefix is bound
to, and else the one that the name has already, if any. -/
structure Fills (q b : QName) : Prop where
  pre : b.pre = q.pre
  localName : b.localName = q.localName
  prefixed : ∀ p, q.pre? = some p →
    ∃ uri, c.namespaces.resolve? p = some uri ∧ b.namespaceUri = some uri
  kept : q.pre? = none → q.namespaceUri.isSome = true → b.namespaceUri = q.namespaceUri

/-- What is mentioned goes together: a name with its namespace filled in, or a prefix with the
namespace that it is bound to. -/
def Resolves : Mention → Mention → Prop
  | .name q, .name b => c.Fills q b
  | .wildcard p, .wildcard uri => c.namespaces.resolve? p = some uri
  | _, _ => False

/-- The second is the first with all namespaces filled in, and nothing else changed. -/
structure FillsIn {α : Type} (erase : α → α) (mentions : α → List Mention) (x x' : α) : Prop where
  erase_eq : erase x' = erase x
  resolves : List.Forall₂ c.Resolves (mentions x) (mentions x')

end StaticContext

section Names

variable {c : StaticContext} {q b : QName} {role : NameRole}

theorem resolve?_of_namespaceOf {p uri : String} (h : c.namespaceOf p = .ok uri) :
    c.namespaces.resolve? p = some uri := by
  unfold StaticContext.namespaceOf at h
  cases hp : c.namespaces.resolve? p with
  | some uri' =>
    rw [hp] at h
    cases h
    rfl
  | none =>
    rw [hp] at h
    cases h

theorem fills_of_bindName (h : c.bindName role q = .ok b) : c.Fills q b := by
  unfold StaticContext.bindName at h
  cases hp : q.pre? with
  | some p =>
    rw [hp] at h
    rcases map_eq_ok.mp h with ⟨uri, huri, rfl⟩
    refine ⟨rfl, rfl, fun p' hp' => ?_, fun hnone => ?_⟩
    · cases hp.symm.trans hp'
      exact ⟨uri, resolve?_of_namespaceOf huri, rfl⟩
    · cases hp.symm.trans hnone
  | none =>
    rw [hp] at h
    have hno : ∀ p, q.pre? = some p →
        ∃ uri, c.namespaces.resolve? p = some uri ∧ b.namespaceUri = some uri := by
      intro p hp'
      cases hp.symm.trans hp'
    by_cases hns : q.namespaceUri.isSome = true
    · simp only [hns, if_true] at h
      cases h
      exact ⟨rfl, rfl, hno, fun _ _ => rfl⟩
    · simp only [hns] at h
      cases h
      exact ⟨rfl, rfl, hno, fun _ h => absurd h hns⟩

theorem erase_of_fills (h : c.Fills q b) : b.erase = q.erase := by
  rw [QName.erase, QName.erase, h.pre, h.localName]

theorem forall₂_name (h : c.Fills q b) : List.Forall₂ c.Resolves [.name q] [.name b] :=
  .cons h .nil

/-! ## 4. Types and tests -/

theorem fills_of_bindAnnotation (h : c.bindAnnotation q = .ok b) : c.Fills q b := by
  unfold StaticContext.bindAnnotation at h
  rcases bind_eq_ok.mp h with ⟨b', hb, h⟩
  -- the annotation is refused, or it is the bound name
  dsimp only at h
  split at h
  · cases h
    exact fills_of_bindName hb
  · cases h

theorem fills_of_bindAtomicType {type : AtomicType} (h : c.bindAtomicType q = .ok (b, type)) :
    c.Fills q b := by
  unfold StaticContext.bindAtomicType at h
  rcases bind_eq_ok.mp h with ⟨b', hb, h⟩
  split at h
  · cases h
    exact fills_of_bindName hb
  · cases h

theorem fillsIn_of_bindCastTarget {t t' : CastTarget} (h : c.bindCastTarget t = .ok t') :
    c.FillsIn CastTarget.erase CastTarget.mentions t t' := by
  unfold StaticContext.bindCastTarget at h
  rcases bind_eq_ok.mp h with ⟨⟨b, type⟩, hb, h⟩
  have hfills := fills_of_bindAtomicType hb
  dsimp only at h
  split at h
  · cases h
    refine ⟨?_, forall₂_name hfills⟩
    rw [CastTarget.erase, CastTarget.erase, erase_of_fills hfills]
  · cases h

theorem fillsIn_of_bindTestedName {n n' : Option TestedName}
    (h : c.bindTestedName role n = .ok n') :
    c.FillsIn (Option.map TestedName.erase) (·.toList.flatMap TestedName.mentions) n n' := by
  match n with
  | none | some .any =>
    cases h
    exact ⟨rfl, .nil⟩
  | some (.name q) =>
    rcases map_eq_ok.mp h with ⟨b, hb, rfl⟩
    have hfills := fills_of_bindName hb
    refine ⟨?_, forall₂_name hfills⟩
    rw [Option.map_some, Option.map_some, TestedName.erase, TestedName.erase, erase_of_fills hfills]

theorem fillsIn_of_bindTestedType {t t' : Option QName} (h : c.bindTestedType t = .ok t') :
    c.FillsIn (Option.map QName.erase) mentionsOfOptional t t' := by
  cases t with
  | none =>
    cases h
    exact ⟨rfl, .nil⟩
  | some q =>
    rcases map_eq_ok.mp h with ⟨b, hb, rfl⟩
    have hfills := fills_of_bindAnnotation hb
    refine ⟨?_, forall₂_name hfills⟩
    rw [Option.map_some, Option.map_some, erase_of_fills hfills]

theorem fillsIn_of_bindKindTest : ∀ {t t' : KindTest}, c.bindKindTest t = .ok t' →
    c.FillsIn KindTest.erase KindTest.mentions t t'
  | .documentOf t, t', h => by
    rw [StaticContext.bindKindTest] at h
    rcases map_eq_ok.mp h with ⟨u, hu, rfl⟩
    have hfills := fillsIn_of_bindKindTest hu
    refine ⟨?_, hfills.resolves⟩
    rw [KindTest.erase, KindTest.erase, hfills.erase_eq]
  | .element name type nillable, t', h => by
    rw [StaticContext.bindKindTest] at h
    rcases map₂_eq_ok.mp h with ⟨name', type', hname, htype, rfl⟩
    have hname := fillsIn_of_bindTestedName hname
    have htype := fillsIn_of_bindTestedType htype
    refine ⟨?_, List.rel_append hname.resolves htype.resolves⟩
    rw [KindTest.erase, KindTest.erase, hname.erase_eq, htype.erase_eq]
  | .attributeNode name type, t', h => by
    rw [StaticContext.bindKindTest] at h
    rcases map₂_eq_ok.mp h with ⟨name', type', hname, htype, rfl⟩
    have hname := fillsIn_of_bindTestedName hname
    have htype := fillsIn_of_bindTestedType htype
    refine ⟨?_, List.rel_append hname.resolves htype.resolves⟩
    rw [KindTest.erase, KindTest.erase, hname.erase_eq, htype.erase_eq]
  | .node, t', h | .document, t', h | .text, t', h | .comment, t', h
  | .processingInstruction _, t', h => by
    cases h
    exact ⟨rfl, .nil⟩

theorem fillsIn_of_bindNodeTest {axis : Axis} {t t' : NodeTest}
    (h : c.bindNodeTest axis t = .ok t') : c.FillsIn NodeTest.erase NodeTest.mentions t t' := by
  match t with
  | .name (.name q) =>
    rcases map_eq_ok.mp h with ⟨b, hb, rfl⟩
    have hfills := fills_of_bindName hb
    refine ⟨?_, forall₂_name hfills⟩
    simp only [NodeTest.erase, NameTest.erase, erase_of_fills hfills]
  | .name (.inNamespace p) =>
    rcases map_eq_ok.mp h with ⟨uri, huri, rfl⟩
    exact ⟨rfl, .cons (resolve?_of_namespaceOf huri) .nil⟩
  | .name .any | .name (.withLocalName _) =>
    cases h
    exact ⟨rfl, .nil⟩
  | .kind k =>
    rcases map_eq_ok.mp h with ⟨k', hk, rfl⟩
    have hfills := fillsIn_of_bindKindTest hk
    refine ⟨?_, hfills.resolves⟩
    rw [NodeTest.erase, NodeTest.erase, hfills.erase_eq]

theorem fillsIn_of_bindSequenceType {t t' : SequenceType} (h : c.bindSequenceType t = .ok t') :
    c.FillsIn SequenceType.erase SequenceType.mentions t t' := by
  match t with
  | .items (.kind k) o =>
    rcases map_eq_ok.mp h with ⟨k', hk, rfl⟩
    have hfills := fillsIn_of_bindKindTest hk
    refine ⟨?_, hfills.resolves⟩
    simp only [SequenceType.erase, ItemType.erase, hfills.erase_eq]
  | .items (.atomic q) o =>
    rcases map_eq_ok.mp h with ⟨⟨b, type⟩, hb, rfl⟩
    have hfills := fills_of_bindAtomicType hb
    refine ⟨?_, forall₂_name hfills⟩
    simp only [SequenceType.erase, ItemType.erase, erase_of_fills hfills]
  | .items .item o | .items .node o | .empty =>
    cases h
    exact ⟨rfl, .nil⟩

theorem fillsIn_of_bindOptionalVariable {locals inner : List ExpandedName} {v v' : Option QName}
    (h : c.bindOptionalVariable locals v = .ok (v', inner)) :
    c.FillsIn (Option.map QName.erase) mentionsOfOptional v v' := by
  cases v with
  | none =>
    cases h
    exact ⟨rfl, .nil⟩
  | some q =>
    rcases map_eq_ok.mp h with ⟨b, hb, heq⟩
    cases heq
    have hfills := fills_of_bindName hb
    refine ⟨?_, forall₂_name hfills⟩
    rw [Option.map_some, Option.map_some, erase_of_fills hfills]

theorem fills_of_bindVariable {locals : List ExpandedName} (h : c.bindVariable locals q = .ok b) :
    c.Fills q b := by
  unfold StaticContext.bindVariable at h
  rcases bind_eq_ok.mp h with ⟨b', hb, h⟩
  split at h
  · cases h
    exact fills_of_bindName hb
  · cases h

end Names

/-! ## 5. Expressions -/

section Expressions

variable {c : StaticContext}

-- one case for each constructor: its names are filled in, and its parts are by induction
mutual

theorem fillsIn_of_bindExpr (locals : List ExpandedName) : ∀ (e e' : Expr),
    c.bindExpr locals e = .ok e' → c.FillsIn Expr.erase Expr.mentions e e'
  | .literal _, e', h | .contextItem, e', h => by
    rw [StaticContext.bindExpr] at h
    cases h
    exact ⟨rfl, .nil⟩
  | .var q, e', h => by
    rw [StaticContext.bindExpr] at h
    rcases map_eq_ok.mp h with ⟨q', hq, rfl⟩
    have hq := fills_of_bindVariable hq
    refine ⟨?_, forall₂_name hq⟩
    rw [Expr.erase, Expr.erase, erase_of_fills hq]
  | .call q args, e', h => by
    rw [StaticContext.bindExpr] at h
    rcases bind_eq_ok.mp h with ⟨q', hq, h⟩
    rcases bind_eq_ok.mp h with ⟨s, -, h⟩
    rcases map_eq_ok.mp h with ⟨args', hargs, rfl⟩
    -- the signature is asked for, but it leaves no trace in the bound call
    have hq := fills_of_bindName hq
    have hargs := fillsIn_of_bindExprs locals args args' hargs
    refine ⟨?_, .cons hq hargs.resolves⟩
    rw [Expr.erase, Expr.erase, erase_of_fills hq, hargs.erase_eq]
  | .sequence items, e', h => by
    rw [StaticContext.bindExpr] at h
    rcases map_eq_ok.mp h with ⟨items', hitems, rfl⟩
    have hitems := fillsIn_of_bindExprs locals items items' hitems
    refine ⟨?_, hitems.resolves⟩
    rw [Expr.erase, Expr.erase, hitems.erase_eq]
  | .range a b, e', h | .and a b, e', h | .or a b, e', h | .arithmetic _ a b, e', h
  | .generalComparison _ a b, e', h | .valueComparison _ a b, e', h
  | .nodeComparison _ a b, e', h | .setOperation _ a b, e', h => by
    rw [StaticContext.bindExpr] at h
    rcases map₂_eq_ok.mp h with ⟨a', b', ha, hb, rfl⟩
    have ha := fillsIn_of_bindExpr locals a a' ha
    have hb := fillsIn_of_bindExpr locals b b' hb
    refine ⟨?_, List.rel_append ha.resolves hb.resolves⟩
    rw [Expr.erase, Expr.erase, ha.erase_eq, hb.erase_eq]
  | .signed _ a, e', h => by
    rw [StaticContext.bindExpr] at h
    rcases map_eq_ok.mp h with ⟨a', ha, rfl⟩
    have ha := fillsIn_of_bindExpr locals a a' ha
    refine ⟨?_, ha.resolves⟩
    rw [Expr.erase, Expr.erase, ha.erase_eq]
  | .path start steps, e', h => by
    rw [StaticContext.bindExpr] at h
    rcases map_eq_ok.mp h with ⟨steps', hsteps, rfl⟩
    have hsteps := fillsIn_of_bindSteps locals steps steps' hsteps
    refine ⟨?_, hsteps.resolves⟩
    rw [Expr.erase, Expr.erase, hsteps.erase_eq]
  | .filter a ps, e', h => by
    rw [StaticContext.bindExpr] at h
    rcases map₂_eq_ok.mp h with ⟨a', ps', ha, hps, rfl⟩
    have ha := fillsIn_of_bindExpr locals a a' ha
    have hps := fillsIn_of_bindExprs locals ps ps' hps
    refine ⟨?_, List.rel_append ha.resolves hps.resolves⟩
    rw [Expr.erase, Expr.erase, ha.erase_eq, hps.erase_eq]
  | .ifThenElse a b d, e', h => by
    rw [StaticContext.bindExpr] at h
    rcases bind_eq_ok.mp h with ⟨a', ha, h⟩
    rcases map₂_eq_ok.mp h with ⟨b', d', hb, hd, rfl⟩
    have ha := fillsIn_of_bindExpr locals a a' ha
    have hb := fillsIn_of_bindExpr locals b b' hb
    have hd := fillsIn_of_bindExpr locals d d' hd
    refine ⟨?_, List.rel_append ha.resolves (List.rel_append hb.resolves hd.resolves)⟩
    rw [Expr.erase, Expr.erase, ha.erase_eq, hb.erase_eq, hd.erase_eq]
  | .forEach bs e, e', h | .letIn bs e, e', h | .quantified _ bs e, e', h => by
    rw [StaticContext.bindExpr] at h
    rcases bind_eq_ok.mp h with ⟨⟨bs', inner⟩, hbs, h⟩
    rcases map_eq_ok.mp h with ⟨body, hbody, rfl⟩
    have hbs := fillsIn_of_bindBindings locals bs bs' inner hbs
    -- the variables in scope decide whether binding succeeds, not what it gives
    have hbody := fillsIn_of_bindExpr inner e body hbody
    refine ⟨?_, List.rel_append hbs.resolves hbody.resolves⟩
    rw [Expr.erase, Expr.erase, hbs.erase_eq, hbody.erase_eq]
  | .instanceOf a t, e', h | .treatAs a t, e', h => by
    rw [StaticContext.bindExpr] at h
    rcases map₂_eq_ok.mp h with ⟨a', t', ha, ht, rfl⟩
    have ha := fillsIn_of_bindExpr locals a a' ha
    have ht := fillsIn_of_bindSequenceType ht
    refine ⟨?_, List.rel_append ha.resolves ht.resolves⟩
    rw [Expr.erase, Expr.erase, ha.erase_eq, ht.erase_eq]
  | .castAs a t, e', h | .castableAs a t, e', h => by
    rw [StaticContext.bindExpr] at h
    rcases map₂_eq_ok.mp h with ⟨a', t', ha, ht, rfl⟩
    have ha := fillsIn_of_bindExpr locals a a' ha
    have ht := fillsIn_of_bindCastTarget ht
    refine ⟨?_, List.rel_append ha.resolves ht.resolves⟩
    rw [Expr.erase, Expr.erase, ha.erase_eq, ht.erase_eq]
  | .typeswitch a cases v d, e', h => by
    rw [StaticContext.bindExpr] at h
    rcases bind_eq_ok.mp h with ⟨a', ha, h⟩
    rcases bind_eq_ok.mp h with ⟨cases', hcases, h⟩
    rcases bind_eq_ok.mp h with ⟨⟨v', inner⟩, hv, h⟩
    rcases map_eq_ok.mp h with ⟨d', hd, rfl⟩
    have ha := fillsIn_of_bindExpr locals a a' ha
    have hcases := fillsIn_of_bindCases locals cases cases' hcases
    have hv := fillsIn_of_bindOptionalVariable hv
    have hd := fillsIn_of_bindExpr inner d d' hd
    refine ⟨?_, List.rel_append ha.resolves
      (List.rel_append hcases.resolves (List.rel_append hv.resolves hd.resolves))⟩
    rw [Expr.erase, Expr.erase, ha.erase_eq, hcases.erase_eq, hv.erase_eq, hd.erase_eq]
termination_by structural e => e

theorem fillsIn_of_bindExprs (locals : List ExpandedName) : ∀ (es es' : List Expr),
    c.bindExprs locals es = .ok es' → c.FillsIn eraseAll mentionsOfAll es es'
  | [], es', h => by
    rw [StaticContext.bindExprs] at h
    cases h
    exact ⟨rfl, .nil⟩
  | e :: r, es', h => by
    rw [StaticContext.bindExprs] at h
    rcases map₂_eq_ok.mp h with ⟨e', r', he, hr, rfl⟩
    have he := fillsIn_of_bindExpr locals e e' he
    have hr := fillsIn_of_bindExprs locals r r' hr
    refine ⟨?_, List.rel_append he.resolves hr.resolves⟩
    rw [eraseAll, eraseAll, he.erase_eq, hr.erase_eq]
termination_by structural es => es

theorem fillsIn_of_bindSteps (locals : List ExpandedName) : ∀ (steps steps' : List Step),
    c.bindSteps locals steps = .ok steps' → c.FillsIn eraseSteps mentionsOfSteps steps steps'
  | [], steps', h => by
    rw [StaticContext.bindSteps] at h
    cases h
    exact ⟨rfl, .nil⟩
  | .axis axis test ps :: r, steps', h => by
    rw [StaticContext.bindSteps] at h
    rcases bind_eq_ok.mp h with ⟨test', htest, h⟩
    rcases map₂_eq_ok.mp h with ⟨ps', r', hps, hr, rfl⟩
    have htest := fillsIn_of_bindNodeTest htest
    have hps := fillsIn_of_bindExprs locals ps ps' hps
    have hr := fillsIn_of_bindSteps locals r r' hr
    refine ⟨?_, List.rel_append (List.rel_append htest.resolves hps.resolves) hr.resolves⟩
    rw [eraseSteps, eraseSteps, htest.erase_eq, hps.erase_eq, hr.erase_eq]
  | .expr e :: r, steps', h => by
    rw [StaticContext.bindSteps] at h
    rcases map₂_eq_ok.mp h with ⟨e', r', he, hr, rfl⟩
    have he := fillsIn_of_bindExpr locals e e' he
    have hr := fillsIn_of_bindSteps locals r r' hr
    refine ⟨?_, List.rel_append he.resolves hr.resolves⟩
    rw [eraseSteps, eraseSteps, he.erase_eq, hr.erase_eq]
termination_by structural steps => steps

theorem fillsIn_of_bindBindings (locals : List ExpandedName) : ∀ (bs bs' : List Binding)
    (inner : List ExpandedName), c.bindBindings locals bs = .ok (bs', inner) →
    c.FillsIn eraseBindings mentionsOfBindings bs bs'
  | [], bs', inner, h => by
    rw [StaticContext.bindBindings] at h
    cases h
    exact ⟨rfl, .nil⟩
  | .mk q e :: r, bs', inner, h => by
    rw [StaticContext.bindBindings] at h
    rcases bind_eq_ok.mp h with ⟨e', he, h⟩
    rcases bind_eq_ok.mp h with ⟨q', hq, h⟩
    rcases map_eq_ok.mp h with ⟨⟨r', inner'⟩, hr, hpair⟩
    cases hpair
    have he := fillsIn_of_bindExpr locals e e' he
    have hq := fills_of_bindName hq
    have hr := fillsIn_of_bindBindings _ r r' inner' hr
    refine ⟨?_, List.rel_append (List.rel_append (forall₂_name hq) he.resolves) hr.resolves⟩
    rw [eraseBindings, eraseBindings, erase_of_fills hq, he.erase_eq, hr.erase_eq]
termination_by structural bs => bs

theorem fillsIn_of_bindCases (locals : List ExpandedName) : ∀ (cases cases' : List Case),
    c.bindCases locals cases = .ok cases' → c.FillsIn eraseCases mentionsOfCases cases cases'
  | [], cases', h => by
    rw [StaticContext.bindCases] at h
    cases h
    exact ⟨rfl, .nil⟩
  | .mk v t e :: r, cases', h => by
    rw [StaticContext.bindCases] at h
    rcases bind_eq_ok.mp h with ⟨t', ht, h⟩
    rcases bind_eq_ok.mp h with ⟨⟨v', inner⟩, hv, h⟩
    rcases map₂_eq_ok.mp h with ⟨e', r', he, hr, rfl⟩
    have ht := fillsIn_of_bindSequenceType ht
    have hv := fillsIn_of_bindOptionalVariable hv
    have he := fillsIn_of_bindExpr inner e e' he
    have hr := fillsIn_of_bindCases locals r r' hr
    refine ⟨?_, List.rel_append
      (List.rel_append hv.resolves (List.rel_append ht.resolves he.resolves)) hr.resolves⟩
    rw [eraseCases, eraseCases, hv.erase_eq, ht.erase_eq, he.erase_eq, hr.erase_eq]
termination_by structural cases => cases

end

end Expressions

/-! ## 6. Queries -/

theorem exists_mem_of_forall₂ {α β : Type} {R : α → β → Prop} {l : List α} {l' : List β}
    (h : List.Forall₂ R l l') : ∀ x ∈ l, ∃ y ∈ l', R x y := by
  induction h with
  | nil => exact fun x hx => absurd hx List.not_mem_nil
  | cons hxy _ ih =>
    intro x hx
    rcases List.mem_cons.mp hx with rfl | hx
    · exact ⟨_, List.mem_cons_self, hxy⟩
    · rcases ih x hx with ⟨y, hy, h⟩
      exact ⟨y, List.mem_cons_of_mem _ hy, h⟩

section Queries

variable {c : StaticContext} {e : Expr} {q : Query} {p : String}

theorem fillsIn_of_ofExpr (h : Query.ofExpr e c = .ok q) :
    c.FillsIn Expr.erase Expr.mentions e q.expr := by
  unfold Query.ofExpr at h
  rcases map₂_eq_ok.mp h with ⟨e', c', he, -, rfl⟩
  exact fillsIn_of_bindExpr [] e e' he

/-- Whatever prefix is mentioned is bound, if binding succeeds. -/
theorem resolve?_of_ofExpr {m : Mention} (h : Query.ofExpr e c = .ok q) (hm : m ∈ e.mentions)
    (hp : m.pre? = some p) : ∃ uri, c.namespaces.resolve? p = some uri := by
  rcases exists_mem_of_forall₂ (fillsIn_of_ofExpr h).resolves m hm with ⟨m', -, hresolves⟩
  match m, m', hresolves with
  | .name q, .name b, hfills =>
    rcases hfills.prefixed p hp with ⟨uri, huri, -⟩
    exact ⟨uri, huri⟩
  | .wildcard p', .wildcard uri, huri =>
    cases hp
    exact ⟨uri, huri⟩

/-- A bound name with a prefix has the namespace of the prefix. -/
theorem namespaceUri_of_ofExpr {b : QName} (h : Query.ofExpr e c = .ok q)
    (hb : .name b ∈ q.expr.mentions) (hp : b.pre? = some p) :
    ∃ uri, c.namespaces.resolve? p = some uri ∧ b.namespaceUri = some uri := by
  rcases exists_mem_of_forall₂ (fillsIn_of_ofExpr h).resolves.flip _ hb with ⟨m, -, hresolves⟩
  match m, hresolves with
  | .name a, hfills =>
    have hpre : a.pre? = some p := by
      rw [QName.pre?, ← hfills.pre]
      exact hp
    exact hfills.prefixed p hpre

end Queries

/-- Binding an expression to a static context fills in its namespaces and changes nothing else.  All
prefixes of the bound expression stand for the namespaces that the context binds them to, and an
expression that mentions a prefix without a binding is not bound at all. -/
theorem Query.ofExpr_fillsIn (e : Expr) (c : StaticContext) :
    (∀ q, Query.ofExpr e c = .ok q →
      c.FillsIn Expr.erase Expr.mentions e q.expr ∧
      ∀ b p, .name b ∈ q.expr.mentions → b.pre? = some p →
        ∃ uri, c.namespaces.resolve? p = some uri ∧ b.namespaceUri = some uri) ∧
    (∀ m ∈ e.mentions, ∀ p, m.pre? = some p → c.namespaces.resolve? p = none →
      ∃ error, Query.ofExpr e c = .error error) := by
  refine ⟨fun q h => ⟨fillsIn_of_ofExpr h, fun b p => namespaceUri_of_ofExpr h⟩, ?_⟩
  intro m hm p hp hunbound
  cases h : Query.ofExpr e c with
  | error error => exact ⟨error, rfl⟩
  | ok q =>
    rcases resolve?_of_ofExpr h hm hp with ⟨uri, huri⟩
    rw [hunbound] at huri
    cases huri

/-- The path `p:a/p:*` where the prefix is bound, and where it is not. -/
theorem Query.ofExpr_fillsIn_sample :
    let unbound : StaticContext := .initial .empty
    let bound := unbound.bindPrefix "p" "urn:p"
    let e : Expr := .path .relative
      [.axis .child (.name (.name ⟨some "p", "a", none⟩)) [],
       .axis .child (.name (.inNamespace "p")) []]
    (∃ q, Query.ofExpr e bound = .ok q ∧ bound.FillsIn Expr.erase Expr.mentions e q.expr) ∧
    ∃ error, Query.ofExpr e unbound = .error error := by
  intro unbound bound e
  refine ⟨⟨_, rfl, ((Query.ofExpr_fillsIn e bound).1 _ rfl).1⟩, ?_⟩
  exact (Query.ofExpr_fillsIn e unbound).2 (.wildcard "p") (by decide) "p" rfl (by decide)

end XPath
