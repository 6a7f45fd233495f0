import ParallelCorpus.Json.Skip

/-!
# Records of counts

A record is an object with members of known names, in any order and each at most once;
members of other names are skipped. An array with the values in the order of the names
is read as well.
-/

namespace ParallelCorpus.Json

/-- The fault of a value of another type: it is still read far enough to see that it is
JSON. -/
def otherType (text : List Char) : Fault :=
  let verdict : Except Fault Unit := match text with
    | 'n' :: text => discard (word ['u', 'l', 'l'] text)
    | 't' :: text => discard (word ['r', 'u', 'e'] text)
    | 'f' :: text => discard (word ['a', 'l', 's', 'e'] text)
    | '"' :: text => discard (string text)
    | '[' :: _ | '{' :: _ => .ok ()
    | c :: text =>
      if c = '-' ∨ c.isDigit then discard (number (c :: text)) else .error .malformed
    | [] => .error .truncated
  match verdict with
  | .ok () => .misshapen
  | .error fault => fault

def count : Reader Nat := fun text =>
  match skipBlanks text with
  | [] => .error .truncated
  | c :: text =>
    if c = '-' ∨ c.isDigit then do
      match ← number (c :: text) with
      | (.count value, text) => return (value, text)
      | (.other, _) => throw .misshapen
    else
      .error (otherType (c :: text))

def optionalCount : Reader (Option Nat) := fun text =>
  match skipBlanks text with
  | 'n' :: text => (word ['u', 'l', 'l'] text).map fun text => (none, text)
  | text => (count text).map fun (value, text) => (some value, text)

section Record

variable {Value : Type} (names : List String) (value : String → Reader Value)

def colon (text : List Char) : Except Fault (List Char) :=
  match skipBlanks text with
  | [] => .error .truncated
  | ':' :: text => .ok text
  | _ => .error .malformed

/-- Reads one member behind the first quote of its name, and adds it to those found
before. -/
def member (found : List (String × Value)) :
    Reader (List (String × Value)) := fun text => do
  let (name, text) ← string text
  if names.contains name then
    if (found.lookup name).isSome then throw .misshapen
    let (read, text) ← value name (← colon text)
    return (found ++ [(name, read)], text)
  else
    return (found, ← skipValue (← colon text))

/-- Reads the members of an object up to its end; `steps` bounds their number. -/
def members : Nat → Bool → List (String × Value) → Reader (List (String × Value))
  | 0, _, _, _ => .error .truncated
  | steps + 1, first, found, text =>
    match skipBlanks text with
    | [] => .error .truncated
    | '}' :: text => .ok (found, text)
    | '"' :: text =>
      if first then do
        let (found, text) ← member names value found text
        members steps false found text
      else
        .error .malformed
    | ',' :: text =>
      if first then .error .malformed
      else
        match skipBlanks text with
        | [] => .error .truncated
        | '"' :: text => do
          let (found, text) ← member names value found text
          members steps false found text
        | _ => .error .malformed
    | _ => .error .malformed

/-- Reads the values of an array that stand for the given names, and its end. -/
def elements : List String → Bool → List (String × Value) → Reader (List (String × Value))
  | [], _, found, text =>
    match skipBlanks text with
    | [] => .error .truncated
    | ']' :: text => .ok (found, text)
    | _ => .error .malformed
  | name :: names, first, found, text =>
    match skipBlanks text with
    | [] => .error .truncated
    | ']' :: _ => .error .misshapen
    | c :: text =>
      if first then do
        let (read, text) ← value name (c :: text)
        elements names false (found ++ [(name, read)]) text
      else if c = ',' then
        match skipBlanks text with
        | [] => .error .truncated
        | ']' :: _ => .error .malformed
        | text => do
          let (read, text) ← value name text
          elements names false (found ++ [(name, read)]) text
      else
        .error .malformed

/-- Reads a record; what comes out has the members that were there, by name. -/
def record : Reader (List (String × Value)) := fun text =>
  match skipBlanks text with
  | [] => .error .truncated
  | '{' :: text => members names value (text.length + 1) true [] text
  | '[' :: text => elements value names true [] text
  | text => .error (otherType text)

end Record

def require {Value : Type} (name : String) (found : List (String × Value)) :
    Except Fault Value :=
  match found.lookup name with
  | some value => .ok value
  | none => .error .misshapen

/-- Reads a whole text: nothing but blanks may follow the value. -/
def whole {α : Type} (reader : Reader α) (text : String) : Except Fault α := do
  let (value, rest) ← reader text.toList
  match skipBlanks rest with
  | [] => return value
  | _ => throw .malformed

end ParallelCorpus.Json
