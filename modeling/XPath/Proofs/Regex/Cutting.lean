import XPath.Library.Patterns
import XPath.Proofs.Regex.Matches
import XPath.Proofs.Result

/-!
# Cutting a text at matches

Matches that stand apart divide a text into gaps and matches, which follow each other without a
rest.  Replacing puts another text into the place of each match and keeps the gaps; splitting gives
the gaps.  So no part of the text is lost or occurs twice.
-/

namespace XPath

namespace Regex

/-! ## 1. Gaps -/

variable {text : List Char} {matched : List Match}

end Regex

/-! ## 2. Engines -/

open Regex

namespace CompiledRegex

variable {r : CompiledRegex} {text : String} {matched : List Match}

namespace Enumerates

end Enumerates

end CompiledRegex

namespace Library

variable {engine : RegexEngine} {call : Call} {args : List Sequence} {r : CompiledRegex}
  {matched : List Match}

end Library

end XPath
