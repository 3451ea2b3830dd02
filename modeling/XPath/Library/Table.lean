import XPath.Library.Aggregates
import XPath.Library.Constructors
import XPath.Library.Dates
import XPath.Library.Diagnostics
import XPath.Library.Documents
import XPath.Library.Durations
import XPath.Library.Names
import XPath.Library.Nodes
import XPath.Library.Numbers
import XPath.Library.Patterns
import XPath.Library.Sequences
import XPath.Library.Strings
import XPath.Library.Uris

/-!
# The function library

Every function of the library with its signature and its body. Besides the functions on values,
nodes and sequences there is a constructor for each atomic type that can be cast to.
-/

namespace XPath

structure LibraryFunction where
  signature : Signature
  body : FunctionBody

namespace Library

def one (t : ParameterItem) : ParameterType := ⟨t, .one⟩

def opt (t : ParameterItem) : ParameterType := ⟨t, .zeroOrOne⟩

def many (t : ParameterItem) : ParameterType := ⟨t, .zeroOrMore⟩

def more (t : ParameterItem) : ParameterType := ⟨t, .oneOrMore⟩

def function (localName : String) (arity : Arity) (parameters : List ParameterType)
    (result : ParameterType) (body : FunctionBody) : LibraryFunction :=
  ⟨⟨.function localName, arity, parameters, result⟩, body⟩

/-- The constructor of an atomic type: a cast of its argument. -/
def constructor (t : AtomicType) : LibraryFunction :=
  ⟨⟨.schema t.localName, .exactly 1, [opt .anyAtomic], opt (.atomic t)⟩, construct t⟩

def accessorsTable : List LibraryFunction :=
  [function "node-name" (.exactly 1) [opt .node] (opt (.atomic .qname)) nodeName,
   function "nilled" (.exactly 1) [opt .node] (opt (.atomic .boolean)) nilled,
   function "string" (.between 0 1) [opt .item] (one (.atomic .string)) stringOf,
   function "data" (.exactly 1) [many .item] (many .anyAtomic) dataOf,
   function "base-uri" (.between 0 1) [opt .node] (opt (.atomic .anyURI)) baseUriOf,
   function "document-uri" (.exactly 1) [opt .node] (opt (.atomic .anyURI)) documentUriOf]

def diagnosticsTable : List LibraryFunction :=
  [function "error" (.between 0 3) [opt (.atomic .qname), one (.atomic .string), many .item]
     (many .item) raise,
   function "trace" (.exactly 2) [many .item, one (.atomic .string)] (many .item) traced]

def numbersTable : List LibraryFunction :=
  [function "abs" (.exactly 1) [opt .numeric] (opt .numeric) absolute,
   function "ceiling" (.exactly 1) [opt .numeric] (opt .numeric) ceilingOf,
   function "floor" (.exactly 1) [opt .numeric] (opt .numeric) floorOf,
   function "round" (.exactly 1) [opt .numeric] (opt .numeric) rounded,
   function "round-half-to-even" (.between 1 2) [opt .numeric, one (.atomic .integer)]
     (opt .numeric) roundedHalfToEven,
   function "number" (.between 0 1) [opt .anyAtomic] (one (.atomic .double)) numberOf]

def stringsTable : List LibraryFunction :=
  [function "codepoints-to-string" (.exactly 1) [many (.atomic .integer)]
     (one (.atomic .string)) codepointsToString,
   function "string-to-codepoints" (.exactly 1) [opt (.atomic .string)]
     (many (.atomic .integer)) stringToCodepoints,
   function "compare" (.between 2 3)
     [opt (.atomic .string), opt (.atomic .string), one (.atomic .string)]
     (opt (.atomic .integer)) compareTexts,
   function "codepoint-equal" (.exactly 2) [opt (.atomic .string), opt (.atomic .string)]
     (opt (.atomic .boolean)) codepointEqual,
   function "concat" (.atLeast 2) [opt .anyAtomic] (one (.atomic .string)) concatenation,
   function "string-join" (.exactly 2) [many (.atomic .string), one (.atomic .string)]
     (one (.atomic .string)) stringJoin,
   function "substring" (.between 2 3)
     [opt (.atomic .string), one (.atomic .double), one (.atomic .double)]
     (one (.atomic .string)) substringOf,
   function "string-length" (.between 0 1) [opt (.atomic .string)]
     (one (.atomic .integer)) stringLength,
   function "normalize-space" (.between 0 1) [opt (.atomic .string)]
     (one (.atomic .string)) normalizeSpace,
   function "normalize-unicode" (.between 1 2) [opt (.atomic .string), one (.atomic .string)]
     (one (.atomic .string)) normalizeUnicode,
   function "upper-case" (.exactly 1) [opt (.atomic .string)] (one (.atomic .string)) upperCase,
   function "lower-case" (.exactly 1) [opt (.atomic .string)] (one (.atomic .string)) lowerCase,
   function "translate" (.exactly 3)
     [opt (.atomic .string), one (.atomic .string), one (.atomic .string)]
     (one (.atomic .string)) translated,
   function "encode-for-uri" (.exactly 1) [opt (.atomic .string)]
     (one (.atomic .string)) encodedForUri,
   function "iri-to-uri" (.exactly 1) [opt (.atomic .string)] (one (.atomic .string)) iriAsUri,
   function "escape-html-uri" (.exactly 1) [opt (.atomic .string)]
     (one (.atomic .string)) htmlUriEscaped,
   function "contains" (.between 2 3)
     [opt (.atomic .string), opt (.atomic .string), one (.atomic .string)]
     (one (.atomic .boolean)) containsText,
   function "starts-with" (.between 2 3)
     [opt (.atomic .string), opt (.atomic .string), one (.atomic .string)]
     (one (.atomic .boolean)) startsWithText,
   function "ends-with" (.between 2 3)
     [opt (.atomic .string), opt (.atomic .string), one (.atomic .string)]
     (one (.atomic .boolean)) endsWithText,
   function "substring-before" (.between 2 3)
     [opt (.atomic .string), opt (.atomic .string), one (.atomic .string)]
     (one (.atomic .string)) substringBefore,
   function "substring-after" (.between 2 3)
     [opt (.atomic .string), opt (.atomic .string), one (.atomic .string)]
     (one (.atomic .string)) substringAfter,
   function "matches" (.between 2 3)
     [opt (.atomic .string), one (.atomic .string), one (.atomic .string)]
     (one (.atomic .boolean)) matchesPattern,
   function "replace" (.between 3 4)
     [opt (.atomic .string), one (.atomic .string), one (.atomic .string), one (.atomic .string)]
     (one (.atomic .string)) replaced,
   function "tokenize" (.between 2 3)
     [opt (.atomic .string), one (.atomic .string), one (.atomic .string)]
     (many (.atomic .string)) tokenized,
   function "resolve-uri" (.between 1 2) [opt (.atomic .string), one (.atomic .string)]
     (opt (.atomic .anyURI)) resolvedUri]

def booleansTable : List LibraryFunction :=
  [function "true" (.exactly 0) [] (one (.atomic .boolean)) constantTrue,
   function "false" (.exactly 0) [] (one (.atomic .boolean)) constantFalse,
   function "not" (.exactly 1) [many .item] (one (.atomic .boolean)) negation,
   function "boolean" (.exactly 1) [many .item] (one (.atomic .boolean)) effectiveBoolean]

def durationsTable : List LibraryFunction :=
  [function "years-from-duration" (.exactly 1) [opt (.atomic .duration)]
     (opt (.atomic .integer)) yearsFromDuration,
   function "months-from-duration" (.exactly 1) [opt (.atomic .duration)]
     (opt (.atomic .integer)) monthsFromDuration,
   function "days-from-duration" (.exactly 1) [opt (.atomic .duration)]
     (opt (.atomic .integer)) daysFromDuration,
   function "hours-from-duration" (.exactly 1) [opt (.atomic .duration)]
     (opt (.atomic .integer)) hoursFromDuration,
   function "minutes-from-duration" (.exactly 1) [opt (.atomic .duration)]
     (opt (.atomic .integer)) minutesFromDuration,
   function "seconds-from-duration" (.exactly 1) [opt (.atomic .duration)]
     (opt (.atomic .decimal)) secondsFromDuration]

def datesTable : List LibraryFunction :=
  [function "year-from-dateTime" (.exactly 1) [opt (.atomic .dateTime)]
     (opt (.atomic .integer)) yearFromDateTime,
   function "month-from-dateTime" (.exactly 1) [opt (.atomic .dateTime)]
     (opt (.atomic .integer)) monthFromDateTime,
   function "day-from-dateTime" (.exactly 1) [opt (.atomic .dateTime)]
     (opt (.atomic .integer)) dayFromDateTime,
   function "hours-from-dateTime" (.exactly 1) [opt (.atomic .dateTime)]
     (opt (.atomic .integer)) hoursFromDateTime,
   function "minutes-from-dateTime" (.exactly 1) [opt (.atomic .dateTime)]
     (opt (.atomic .integer)) minutesFromDateTime,
   function "seconds-from-dateTime" (.exactly 1) [opt (.atomic .dateTime)]
     (opt (.atomic .decimal)) secondsFromDateTime,
   function "timezone-from-dateTime" (.exactly 1) [opt (.atomic .dateTime)]
     (opt (.atomic .dayTimeDuration)) timezoneFromDateTime,
   function "year-from-date" (.exactly 1) [opt (.atomic .date)]
     (opt (.atomic .integer)) yearFromDate,
   function "month-from-date" (.exactly 1) [opt (.atomic .date)]
     (opt (.atomic .integer)) monthFromDate,
   function "day-from-date" (.exactly 1) [opt (.atomic .date)] (opt (.atomic .integer)) dayFromDate,
   function "timezone-from-date" (.exactly 1) [opt (.atomic .date)]
     (opt (.atomic .dayTimeDuration)) timezoneFromDate,
   function "hours-from-time" (.exactly 1) [opt (.atomic .time)]
     (opt (.atomic .integer)) hoursFromTime,
   function "minutes-from-time" (.exactly 1) [opt (.atomic .time)]
     (opt (.atomic .integer)) minutesFromTime,
   function "seconds-from-time" (.exactly 1) [opt (.atomic .time)]
     (opt (.atomic .decimal)) secondsFromTime,
   function "timezone-from-time" (.exactly 1) [opt (.atomic .time)]
     (opt (.atomic .dayTimeDuration)) timezoneFromTime,
   function "adjust-dateTime-to-timezone" (.between 1 2)
     [opt (.atomic .dateTime), opt (.atomic .dayTimeDuration)]
     (opt (.atomic .dateTime)) adjustDateTime,
   function "adjust-date-to-timezone" (.between 1 2)
     [opt (.atomic .date), opt (.atomic .dayTimeDuration)]
     (opt (.atomic .date)) adjustDate,
   function "adjust-time-to-timezone" (.between 1 2)
     [opt (.atomic .time), opt (.atomic .dayTimeDuration)]
     (opt (.atomic .time)) adjustTime,
   function "dateTime" (.exactly 2) [opt (.atomic .date), opt (.atomic .time)]
     (opt (.atomic .dateTime)) makeDateTime]

def namesTable : List LibraryFunction :=
  [function "resolve-QName" (.exactly 2) [opt (.atomic .string), one .node]
     (opt (.atomic .qname)) resolveQName,
   function "QName" (.exactly 2) [opt (.atomic .string), one (.atomic .string)]
     (one (.atomic .qname)) makeQName,
   function "prefix-from-QName" (.exactly 1) [opt (.atomic .qname)]
     (opt (.atomic .string)) prefixFromQName,
   function "local-name-from-QName" (.exactly 1) [opt (.atomic .qname)]
     (opt (.atomic .string)) localNameFromQName,
   function "namespace-uri-from-QName" (.exactly 1) [opt (.atomic .qname)]
     (opt (.atomic .anyURI)) namespaceUriFromQName,
   function "namespace-uri-for-prefix" (.exactly 2) [opt (.atomic .string), one .node]
     (opt (.atomic .anyURI)) namespaceUriForPrefix,
   function "in-scope-prefixes" (.exactly 1) [one .node] (many (.atomic .string)) inScopePrefixes]

def nodesTable : List LibraryFunction :=
  [function "name" (.between 0 1) [opt .node] (one (.atomic .string)) nameOf,
   function "local-name" (.between 0 1) [opt .node] (one (.atomic .string)) localNameOf,
   function "namespace-uri" (.between 0 1) [opt .node] (opt (.atomic .anyURI)) namespaceUriOf,
   function "lang" (.between 1 2) [opt (.atomic .string), one .node]
     (one (.atomic .boolean)) hasLanguage,
   function "root" (.between 0 1) [opt .node] (opt .node) rootOf]

def sequencesTable : List LibraryFunction :=
  [function "index-of" (.between 2 3) [many .anyAtomic, one .anyAtomic, one (.atomic .string)]
     (many (.atomic .integer)) indexOf,
   function "empty" (.exactly 1) [many .item] (one (.atomic .boolean)) isEmptyArgument,
   function "exists" (.exactly 1) [many .item] (one (.atomic .boolean)) isNonEmptyArgument,
   function "distinct-values" (.between 1 2) [many .anyAtomic, one (.atomic .string)]
     (many .anyAtomic) distinctValues,
   function "insert-before" (.exactly 3) [many .item, one (.atomic .integer), many .item]
     (many .item) insertBefore,
   function "remove" (.exactly 2) [many .item, one (.atomic .integer)] (many .item) removeAt,
   function "reverse" (.exactly 1) [many .item] (many .item) reversed,
   function "subsequence" (.between 2 3) [many .item, one (.atomic .double), one (.atomic .double)]
     (many .item) subsequence,
   function "unordered" (.exactly 1) [many .item] (many .item) anyOrder,
   function "zero-or-one" (.exactly 1) [many .item] (opt .item) zeroOrOne,
   function "one-or-more" (.exactly 1) [many .item] (more .item) oneOrMore,
   function "exactly-one" (.exactly 1) [many .item] (one .item) exactlyOne,
   function "deep-equal" (.between 2 3) [many .item, many .item, one (.atomic .string)]
     (one (.atomic .boolean)) deepEqual,
   function "count" (.exactly 1) [many .item] (one (.atomic .integer)) countItems,
   function "avg" (.exactly 1) [many .anyAtomic] (opt .anyAtomic) averageOf,
   function "max" (.between 1 2) [many .anyAtomic, one (.atomic .string)] (opt .anyAtomic) greatest,
   function "min" (.between 1 2) [many .anyAtomic, one (.atomic .string)] (opt .anyAtomic) least,
   function "sum" (.between 1 2) [many .anyAtomic, opt .anyAtomic] (opt .anyAtomic) sumOf,
   function "id" (.between 1 2) [many (.atomic .string), one .node] (many .node) elementsWithId,
   function "idref" (.between 1 2) [many (.atomic .string), one .node]
     (many .node) attributesWithIdref,
   function "doc" (.exactly 1) [opt (.atomic .string)] (opt .node) documentAt,
   function "doc-available" (.exactly 1) [opt (.atomic .string)]
     (one (.atomic .boolean)) documentAvailable,
   function "collection" (.between 0 1) [opt (.atomic .string)] (many .node) collectionAt]

def contextsTable : List LibraryFunction :=
  [function "position" (.exactly 0) [] (one (.atomic .integer)) focusPosition,
   function "last" (.exactly 0) [] (one (.atomic .integer)) focusLast,
   function "current-dateTime" (.exactly 0) [] (one (.atomic .dateTime)) currentDateTime,
   function "current-date" (.exactly 0) [] (one (.atomic .date)) currentDate,
   function "current-time" (.exactly 0) [] (one (.atomic .time)) currentTime,
   function "implicit-timezone" (.exactly 0) [] (one (.atomic .dayTimeDuration)) implicitTimezone,
   function "default-collation" (.exactly 0) [] (one (.atomic .string)) defaultCollation,
   function "static-base-uri" (.exactly 0) [] (opt (.atomic .anyURI)) staticBaseUri]

def constructorsTable : List LibraryFunction :=
  (AtomicType.all.filter AtomicType.isCastTarget).map constructor

def table : List LibraryFunction :=
  accessorsTable ++ diagnosticsTable ++ numbersTable ++ stringsTable ++ booleansTable ++
    durationsTable ++ datesTable ++ namesTable ++ nodesTable ++ sequencesTable ++
    contextsTable ++ constructorsTable

def signatures : Signatures :=
  ⟨table.map fun f => (f.signature.name, f.signature.arity, f.signature)⟩

def functions : Functions :=
  ⟨table.map fun f => (f.signature.name, f.signature.arity, f.body)⟩

end Library

end XPath
