import XPath.Function.Call

/-!
# Functions with regular expressions
-/

namespace XPath.Library

def matchesPattern : FunctionBody := fun call args => do
  let found ← call.dynamic.regex.isMatch (Arguments.text args 1) (Arguments.text args 2)
    (Arguments.text args 0)
  return [.boolean found]

def replaced : FunctionBody := fun call args => do
  let text ← call.dynamic.regex.replace (Arguments.text args 1) (Arguments.text args 3)
    (Arguments.text args 0) (Arguments.text args 2)
  return [.string text]

def tokenized : FunctionBody := fun call args => do
  let tokens ← call.dynamic.regex.tokenize (Arguments.text args 1) (Arguments.text args 2)
    (Arguments.text args 0)
  return tokens.map fun s => .string s

end XPath.Library
