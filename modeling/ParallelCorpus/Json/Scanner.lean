/-!
# Reading JSON texts

A JSON text is read from left to right, and reading stops at the first fault. A fault is
one of three kinds: the text ends too early, it is not JSON, or it is JSON of another
shape than what is read. This module holds what all readers use: blanks, words and
strings.
-/

namespace ParallelCorpus.Json

inductive Fault
  /-- The text ends before the value does. -/
  | truncated
  /-- The text is not JSON. -/
  | malformed
  /-- The text is JSON, but not of the shape that was asked for. -/
  | misshapen
  deriving DecidableEq, Repr

/-- Reads a value off the front of a text and gives what follows it. -/
abbrev Reader (α : Type) := List Char → Except Fault (α × List Char)

def isBlank (c : Char) : Bool :=
  c == ' ' || c == '\n' || c == '\t' || c == '\r'

def skipBlanks (text : List Char) : List Char :=
  text.dropWhile isBlank

def word : List Char → List Char → Except Fault (List Char)
  | [], text => .ok text
  | _ :: _, [] => .error .truncated
  | letter :: letters, c :: text =>
    if letter = c then word letters text else .error .malformed

def hexDigit? (c : Char) : Option Nat :=
  if '0' ≤ c ∧ c ≤ '9' then some (c.toNat - '0'.toNat)
  else if 'a' ≤ c ∧ c ≤ 'f' then some (c.toNat - 'a'.toNat + 10)
  else if 'A' ≤ c ∧ c ≤ 'F' then some (c.toNat - 'A'.toNat + 10)
  else none

/-- Reads four hexadecimal digits. The text ends too early when fewer than four bytes
are left. -/
def hexQuad : Reader Nat
  | a :: b :: c :: d :: text =>
    match hexDigit? a, hexDigit? b, hexDigit? c, hexDigit? d with
    | some a, some b, some c, some d => .ok (((a * 16 + b) * 16 + c) * 16 + d, text)
    | _, _, _, _ => .error .malformed
  | text =>
    .error (if (String.ofList text).utf8ByteSize < 4 then .truncated else .malformed)

/-- The character behind a backslash that stands for a character by itself. -/
def plainEscape? (c : Char) : Option Char :=
  [('"', '"'), ('\\', '\\'), ('/', '/'), ('b', '\x08'), ('f', '\x0c'),
    ('n', '\n'), ('r', '\r'), ('t', '\t')].lookup c

/-- Reads the second half of a character that takes two escapes. -/
def secondHalf (first : Nat) : Reader Char
  | [] => .error .truncated
  | '\\' :: [] => .error .truncated
  | '\\' :: 'u' :: text => do
    let (second, text) ← hexQuad text
    if 0xDC00 ≤ second ∧ second ≤ 0xDFFF then
      return (Char.ofNat (0x10000 + (first - 0xD800) * 0x400 + (second - 0xDC00)), text)
    else
      throw .malformed
  | _ => .error .malformed

/-- Reads the character that an escape stands for, behind the backslash. -/
def escape : Reader Char
  | [] => .error .truncated
  | 'u' :: text => do
    let (code, text) ← hexQuad text
    if 0xDC00 ≤ code ∧ code ≤ 0xDFFF then throw .malformed
    else if 0xD800 ≤ code ∧ code ≤ 0xDBFF then secondHalf code text
    else return (Char.ofNat code, text)
  | c :: text =>
    match plainEscape? c with
    | some plain => .ok (plain, text)
    | none => .error .malformed

/-- Reads a string behind its first quote; every step takes at least one character. -/
def stringBody : Nat → List Char → Reader String
  | 0, _, _ => .error .truncated
  | _ + 1, _, [] => .error .truncated
  | _ + 1, read, '"' :: text => .ok (String.ofList read.reverse, text)
  | steps + 1, read, '\\' :: text => do
    let (c, text) ← escape text
    stringBody steps (c :: read) text
  | steps + 1, read, c :: text =>
    if c.toNat < 0x20 then .error .malformed else stringBody steps (c :: read) text

def string : Reader String := fun text =>
  stringBody (text.length + 1) [] text

/-- Skips a string behind its first quote. Halves of characters need not fit together. -/
def skipStringBody : Nat → List Char → Except Fault (List Char)
  | 0, _ => .error .truncated
  | _ + 1, [] => .error .truncated
  | _ + 1, '"' :: text => .ok text
  | _ + 1, '\\' :: [] => .error .truncated
  | steps + 1, '\\' :: 'u' :: text => do
    let (_, text) ← hexQuad text
    skipStringBody steps text
  | steps + 1, '\\' :: c :: text =>
    if (plainEscape? c).isSome then skipStringBody steps text else .error .malformed
  | steps + 1, c :: text =>
    if c.toNat < 0x20 then .error .malformed else skipStringBody steps text

def skipString (text : List Char) : Except Fault (List Char) :=
  skipStringBody (text.length + 1) text

end ParallelCorpus.Json
