import DialUp.Yaml.Source
import DialUp.Yaml.Value

/-!
# Reading a document

From the bytes of a document to what it holds. Of two faults, the one that reading meets first
counts: in the bytes, the characters, the tokens and the structure as far as reading gets, and then
in single values.
-/

namespace DialUp.Yaml

/-- The document that bytes stand for. -/
def read (data : Bytes) : Except Fault Document := do
  let source := Source.ofBytes data
  let (tokens, fault) := tokensOf source.text source.fault
  (← Graph.ofTokens tokens (fault.getD .malformed)).document

end DialUp.Yaml
