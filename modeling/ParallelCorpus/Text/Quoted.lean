import ParallelCorpus.Text.VisibilityTable

/-!
# Quoted text

Names in messages stand between double quotes. Inside, the quote and the backslash are
escaped, four controls have letters of their own, and every other character that has no
visible form of its own, or would join the character before it, is written as its code
point in hexadecimal.
-/

namespace ParallelCorpus.Text

/-- A backslash, the letter u and the code point in braces. -/
def codePointEscape (c : Char) : List Char :=
  ['\\', 'u', '\x7b'] ++ Nat.toDigits 16 c.toNat ++ ['\x7d']

def escaped (c : Char) : List Char :=
  if c = '"' ∨ c = '\\' then ['\\', c]
  else if c = '\t' then ['\\', 't']
  else if c = '\r' then ['\\', 'r']
  else if c = '\n' then ['\\', 'n']
  else if c.toNat = 0 then ['\\', '0']
  else if extending.has c || invisible.has c || fillers.has c then codePointEscape c
  else [c]

def quoted (s : String) : String :=
  String.ofList (['"'] ++ s.toList.flatMap escaped ++ ['"'])

end ParallelCorpus.Text
