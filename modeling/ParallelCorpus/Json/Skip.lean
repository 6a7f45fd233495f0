import ParallelCorpus.Json.Number

/-!
# Values that nobody wants

A member of a record that has no meaning is skipped. Its value may be nested to any
depth; what encloses the place that was reached is kept as a stack.
-/

namespace ParallelCorpus.Json

inductive Frame
  | array
  | object
  deriving DecidableEq, Repr

def Frame.closing : Frame → Char
  | array => ']'
  | object => '}'

/-- What may come next while a value is skipped. -/
inductive Expected
  | value
  /-- What an opening bracket encloses, or nothing. -/
  | content
  /-- A value, behind its name where names are needed. -/
  | member
  /-- A comma or the end of what encloses the value just skipped. -/
  | continuation
  deriving DecidableEq, Repr

def skipName (text : List Char) : Except Fault (List Char) :=
  match skipBlanks text with
  | [] => .error .truncated
  | '"' :: text => do
    match skipBlanks (← skipString text) with
    | [] => throw .truncated
    | ':' :: text => return text
    | _ => throw .malformed
  | _ => .error .malformed

/-- Skips the rest of a value; `steps` bounds the number of moves. -/
def skipSteps : Nat → Expected → List Frame → List Char → Except Fault (List Char)
  | 0, _, _, _ => .error .truncated
  | _ + 1, .continuation, [], text => .ok text
  | steps + 1, .continuation, frame :: frames, text =>
    match skipBlanks text with
    | [] => .error .truncated
    | ',' :: text => skipSteps steps .member (frame :: frames) text
    | c :: text =>
      if c = frame.closing then skipSteps steps .continuation frames text
      else .error .malformed
  | _ + 1, .content, [], _ => .error .malformed
  | steps + 1, .content, frame :: frames, text =>
    match skipBlanks text with
    | [] => .error .truncated
    | c :: text =>
      if c = frame.closing then skipSteps steps .continuation frames text
      else skipSteps steps .member (frame :: frames) (c :: text)
  | steps + 1, .member, frames, text =>
    match frames with
    | .object :: _ => do skipSteps steps .value frames (← skipName text)
    | _ => skipSteps steps .value frames text
  | steps + 1, .value, frames, text =>
    match skipBlanks text with
    | [] => .error .truncated
    | '[' :: text => skipSteps steps .content (.array :: frames) text
    | '{' :: text => skipSteps steps .content (.object :: frames) text
    | '"' :: text => do skipSteps steps .continuation frames (← skipString text)
    | 'n' :: text => do skipSteps steps .continuation frames (← word ['u', 'l', 'l'] text)
    | 't' :: text => do skipSteps steps .continuation frames (← word ['r', 'u', 'e'] text)
    | 'f' :: text => do
      skipSteps steps .continuation frames (← word ['a', 'l', 's', 'e'] text)
    | c :: text =>
      if c = '-' ∨ c.isDigit then do
        skipSteps steps .continuation frames (← skipNumber (c :: text))
      else
        .error .malformed

/-- Skips a value. No move but the last goes without a character for long, so four moves
for each are enough. -/
def skipValue (text : List Char) : Except Fault (List Char) :=
  skipSteps (4 * text.length + 4) .value [] text

end ParallelCorpus.Json
