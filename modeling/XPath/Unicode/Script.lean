import XPath.Unicode.RunTable
import XPath.Unicode.ScriptTable

/-!
# Scripts

Every code point belongs to one script, which has a code of four letters and a name.
-/

namespace XPath.Unicode

/-- The code of the script of every code point. -/
def scriptTable : RunTable String := .ofRuns (readNamedRuns (String.join scriptRuns))

def script (c : Char) : String := (scriptTable.get? c.toNat).getD "Zzzz"

end XPath.Unicode
