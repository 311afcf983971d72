/-!
# Redacted texts

`redacted` : what a log shows in place of a matched text, of which it tells at most the length.
-/

namespace TextPattern

/-- The greatest length in bytes that is not even counted. -/
def redactionLimit : Nat := 8

/-- What stands for a text in a log. A short text is not told apart from any other short text; of a
longer one the length in bytes is told. -/
def redacted (text : String) : String :=
  if text.utf8ByteSize ≤ redactionLimit then "[REDACTED]"
  else "[REDACTED: " ++ toString text.utf8ByteSize ++ " chars]"

end TextPattern
