import XPath.Unicode.CategoryTable
import XPath.Unicode.RunTable

/-!
# General categories

Every code point has one of thirty general categories, known by two letters. The first letter
names a group of categories.
-/

namespace XPath.Unicode

/-- The general categories, by their abbreviations. -/
inductive Category where
  | Lu | Ll | Lt | Lm | Lo | Mn | Mc | Me | Nd | Nl | No | Pc | Pd | Ps | Pe | Pi | Pf | Po
  | Sm | Sc | Sk | So | Zs | Zl | Zp | Cc | Cf | Cs | Co | Cn
  deriving DecidableEq, Repr, Inhabited

namespace Category

/-- The abbreviation and the full name. -/
def names : Category → String × String
  | Lu => ("Lu", "Uppercase_Letter") | Ll => ("Ll", "Lowercase_Letter")
  | Lt => ("Lt", "Titlecase_Letter") | Lm => ("Lm", "Modifier_Letter")
  | Lo => ("Lo", "Other_Letter") | Mn => ("Mn", "Nonspacing_Mark")
  | Mc => ("Mc", "Spacing_Mark") | Me => ("Me", "Enclosing_Mark")
  | Nd => ("Nd", "Decimal_Number") | Nl => ("Nl", "Letter_Number")
  | No => ("No", "Other_Number") | Pc => ("Pc", "Connector_Punctuation")
  | Pd => ("Pd", "Dash_Punctuation") | Ps => ("Ps", "Open_Punctuation")
  | Pe => ("Pe", "Close_Punctuation") | Pi => ("Pi", "Initial_Punctuation")
  | Pf => ("Pf", "Final_Punctuation") | Po => ("Po", "Other_Punctuation")
  | Sm => ("Sm", "Math_Symbol") | Sc => ("Sc", "Currency_Symbol")
  | Sk => ("Sk", "Modifier_Symbol") | So => ("So", "Other_Symbol")
  | Zs => ("Zs", "Space_Separator") | Zl => ("Zl", "Line_Separator")
  | Zp => ("Zp", "Paragraph_Separator") | Cc => ("Cc", "Control") | Cf => ("Cf", "Format")
  | Cs => ("Cs", "Surrogate") | Co => ("Co", "Private_Use") | Cn => ("Cn", "Unassigned")

def all : List Category :=
  [Lu, Ll, Lt, Lm, Lo, Mn, Mc, Me, Nd, Nl, No, Pc, Pd, Ps, Pe, Pi, Pf, Po, Sm, Sc, Sk, So, Zs, Zl,
   Zp, Cc, Cf, Cs, Co, Cn]

def ofAbbreviation (s : String) : Category := (all.find? (·.names.1 == s)).getD Cn

/-- The groups of categories: the names of each, and its members. -/
def groups : List (List String × List Category) :=
  [(["L", "Letter"], [Lu, Ll, Lt, Lm, Lo]), (["LC", "Cased_Letter"], [Lu, Ll, Lt]),
   (["M", "Mark", "Combining_Mark"], [Mn, Mc, Me]), (["N", "Number"], [Nd, Nl, No]),
   (["P", "Punctuation", "punct"], [Pc, Pd, Ps, Pe, Pi, Pf, Po]),
   (["S", "Symbol"], [Sm, Sc, Sk, So]), (["Z", "Separator"], [Zs, Zl, Zp]),
   (["C", "Other"], [Cc, Cf, Cs, Co, Cn]), (["digit"], [Nd]), (["cntrl"], [Cc])]

def table : RunTable Category :=
  .ofRuns ((readNamedRuns (String.join categoryRuns)).map fun (n, s) => (n, ofAbbreviation s))

end Category

def category (c : Char) : Category := (Category.table.get? c.toNat).getD .Cn

end XPath.Unicode
