/-!
# Line endings

Text is read with every line ending as a single line feed: a carriage return counts as one, and
so does a carriage return with the line feed that follows it.
-/

namespace ReactScaffold.Text

/-- The characters with line endings turned into line feeds. -/
def normalizeLineEndings : List Char → List Char
  | [] => []
  | '\r' :: '\n' :: rest => '\n' :: normalizeLineEndings rest
  | c :: rest => (if c = '\r' then '\n' else c) :: normalizeLineEndings rest

end ReactScaffold.Text
