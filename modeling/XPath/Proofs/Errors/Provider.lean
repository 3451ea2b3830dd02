import XPath.Proofs.Errors.NotStatic
import XPath.Regex.Provider

/-!
# Providers and static errors

A provider of the host may raise any error. The provider that is there otherwise raises only errors
of its own, none of which is static, whichever engine it asks.
-/

namespace XPath

/-- The operations raise no static errors. -/
structure RegexProvider.RaisesNoStatic (p : RegexProvider) : Prop where
  isMatch : ∀ pattern flags text, NotStatic (p.isMatch pattern flags text)
  replace : ∀ pattern flags text replacement, NotStatic (p.replace pattern flags text replacement)
  tokenize : ∀ pattern flags text, NotStatic (p.tokenize pattern flags text)

@[simp] theorem notStatic_ofEngine {α : Type} (r : Except String α) :
    NotStatic (r.mapError Error.ofEngine) := by
  intro e h
  cases r with
  | ok a => cases h
  | error message =>
    cases h
    simp [Error.ofEngine]

@[simp] theorem notStatic_readFlags (letters : List Char) :
    NotStatic (Regex.Flags.read letters) := by
  apply notStatic_foldlM
  intro f c _
  split <;> simp [Error.unsupportedFlag]

@[simp] theorem notStatic_readTemplate (groups : Nat) (s : String) :
    NotStatic (Regex.Template.read groups s) := by
  unfold Regex.Template.read
  split <;> simp [Error.malformedReplacement]

namespace CompiledRegex

variable (r : CompiledRegex)

@[simp] theorem notStatic_rejectEmptyMatch (function : String) :
    NotStatic (r.rejectEmptyMatch function) := by
  simp [rejectEmptyMatch, Error.matchesEmpty]

@[simp] theorem notStatic_replace (t : Regex.Template) (text : String) :
    NotStatic (r.replace t text) := by
  have hmatched : NotStatic ((r.captures text).mapM (·.mapError Error.ofEngine)) :=
    notStatic_mapM fun _ _ => notStatic_ofEngine _
  simp [replace, hmatched]

@[simp] theorem notStatic_split (text : String) : NotStatic (r.split text) := by
  have hspans : NotStatic ((r.spans text).mapM (·.mapError Error.ofEngine)) :=
    notStatic_mapM fun _ _ => notStatic_ofEngine _
  simp [split, hspans]

end CompiledRegex

namespace RegexEngine

variable (engine : RegexEngine)

@[simp] theorem notStatic_build (pattern flags : String) :
    NotStatic (engine.build pattern flags) := by
  simp [build]

/-- Whatever an engine answers, the provider that asks it raises no static errors. -/
theorem raisesNoStatic_provider : engine.provider.RaisesNoStatic where
  isMatch pattern flags text := by simp [provider]
  replace pattern flags text replacement := by simp [provider]
  tokenize pattern flags text := by simp [provider]

end RegexEngine

end XPath
