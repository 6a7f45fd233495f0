import ParallelCorpus.Text.Bytes

/-!
# Words of a raw line

Documents are byte strings and are never decoded. A word is a maximal run of bytes other
than the six blanks below; since no byte of a longer UTF-8 sequence is one of them,
counting on the bytes and counting on the text that they encode agree.
-/

namespace ParallelCorpus.Text

/-- Space, tab, line feed, carriage return, vertical tab and form feed separate words. -/
def isBlank (byte : UInt8) : Bool :=
  byte == 0x20 || byte == 0x09 || byte == 0x0A || byte == 0x0D ||
    byte == 0x0B || byte == 0x0C

/-- The number of words: the non-empty pieces between blanks. -/
def wordCount (text : Bytes) : Nat :=
  (text.splitOnP isBlank).countP fun piece => !piece.isEmpty

end ParallelCorpus.Text
