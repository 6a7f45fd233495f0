/-!
# Byte strings

Documents are read and written as bytes and are never decoded, so that any content
passes through unchanged. Only names and messages are text; they become bytes in UTF-8.
-/

namespace ParallelCorpus.Text

/-- The content of a file or of a part of it. -/
abbrev Bytes := List UInt8

def utf8 (s : String) : Bytes :=
  s.toByteArray.data.toList

end ParallelCorpus.Text
