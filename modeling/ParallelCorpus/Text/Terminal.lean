/-!
# Text without terminal controls

Messages show what a user has typed without the characters that steer a terminal: single
controls, and sequences of characters that begin with the escape character. The
character behind it says what kind of sequence has begun, and with it which character
ends it. A sequence that does not end takes the rest of the text with it; cancelling
one, or beginning another, is possible everywhere.
-/

namespace ParallelCorpus.Text.Terminal

/-- How far into a sequence a text has come. -/
inductive Mode
  /-- In no sequence. -/
  | ground
  /-- Behind the escape character. -/
  | escape
  /-- Behind intermediate characters of a short sequence. -/
  | intermediate
  /-- In a control sequence. -/
  | control
  /-- In a command to the operating system, which a bell ends. -/
  | command
  /-- Where a device string begins. -/
  | device
  /-- In the parameters of a device string. -/
  | deviceParameters
  /-- Behind the parameters of a device string. -/
  | deviceIntermediate
  /-- In a string that is not for showing. -/
  | string
  /-- Behind white space in a sequence that goes on later. -/
  | interrupted (sequence : Mode)
  deriving DecidableEq, Repr

/-- The code point of a character lies between two others, both included. -/
def within (first last : Nat) (c : Char) : Bool :=
  first ≤ c.toNat && c.toNat ≤ last

/-- Tabs, line feeds, form feeds and carriage returns. -/
def isSpacing (c : Char) : Bool :=
  c = '\t' || c = '\n' || c.toNat = 0x0C || c = '\r'

/-- A character of ASCII that prints. -/
def isPrinting (c : Char) : Bool := within 0x20 0x7E c

/-- A character outside ASCII. -/
def isWide (c : Char) : Bool := 0x80 ≤ c.toNat

/-- A character outside ASCII whose encoding holds the byte that terminates strings. -/
def isTerminating (c : Char) : Bool :=
  isWide c && (String.utf8EncodeChar c).contains 0x9C

namespace Mode

/-- White space is shown in the midst of these. -/
def isInterruptible : Mode → Bool
  | escape | intermediate | control => true
  | _ => false

def shows (mode : Mode) (c : Char) : Bool :=
  match mode with
  | ground | interrupted _ => isPrinting c || isSpacing c || isWide c
  | _ => mode.isInterruptible && isSpacing c

def begun (c : Char) : Mode :=
  if within 0x20 0x2F c then intermediate
  else if c = '[' then control
  else if c = ']' then command
  else if c = 'P' then device
  else if c = 'X' || c = '^' || c = '_' then string
  else if isPrinting c then ground
  else escape

/-- The mode behind a character of a sequence that it neither cancels nor interrupts. -/
def advance (mode : Mode) (c : Char) : Mode :=
  match mode with
  | ground => ground
  | escape => begun c
  | intermediate => if within 0x30 0x7E c then ground else intermediate
  | control => if within 0x40 0x7E c then ground else control
  | command => if c.toNat = 0x07 then ground else command
  | device =>
    if within 0x20 0x2F c then deviceIntermediate
    else if within 0x30 0x3F c then deviceParameters
    else if within 0x40 0x7E c then string
    else device
  | deviceParameters =>
    if within 0x20 0x2F c then deviceIntermediate
    else if within 0x3C 0x7E c then string
    else deviceParameters
  | deviceIntermediate => if within 0x30 0x7E c then string else deviceIntermediate
  | string => if isTerminating c then ground else string
  | interrupted sequence =>
    if isWide c then ground
    else if isPrinting c || isSpacing c then interrupted sequence
    else sequence

/-- The mode behind a character. White space ends the sequence that it stands in, or
only interrupts it if sequences are `resumed`. -/
def next (resumed : Bool) (mode : Mode) (c : Char) : Mode :=
  if c.toNat = 0x1B then escape
  else if c.toNat = 0x18 || c.toNat = 0x1A then ground
  else if mode.isInterruptible && isSpacing c then
    if resumed then interrupted mode else ground
  else mode.advance c

end Mode

def shownFrom (resumed : Bool) : Mode → List Char → List Char
  | _, [] => []
  | mode, c :: rest =>
    let others := shownFrom resumed (mode.next resumed c) rest
    if mode.shows c then c :: others else others

/-- A text as a message quotes it. -/
def plain (text : String) : String :=
  String.ofList (shownFrom false .ground text.toList)

/-- A text as it is quoted on a channel, where a sequence goes on behind white space: at
the next control character. -/
def plainOnChannel (text : String) : String :=
  String.ofList (shownFrom true .ground text.toList)

/-- A character that is shown where no sequence has begun begins none. -/
theorem Mode.next_ground (resumed : Bool) {c : Char} (shown : ground.shows c) :
    ground.next resumed c = ground := by
  have noEscape : c.toNat ≠ 0x1B := by
    intro escapes
    have same : c = Char.ofNat 0x1B := by rw [← escapes, Char.ofNat_toNat]
    subst same
    exact absurd shown (by decide)
  simp [next, noEscape, isInterruptible, advance]

/-- A text that holds shown characters only is shown as it is. -/
theorem shownFrom_ground (resumed : Bool) {text : List Char}
    (shown : ∀ c ∈ text, Mode.ground.shows c) :
    shownFrom resumed .ground text = text := by
  induction text with
  | nil => rfl
  | cons c rest ih =>
      have first : Mode.ground.shows c := shown c List.mem_cons_self
      have others := ih fun d isRest => shown d (List.mem_cons_of_mem c isRest)
      simp only [shownFrom, first, if_true, Mode.next_ground resumed first, others]

/-- Nothing is shown that the text does not hold, and in no other order. -/
theorem shownFrom_sublist (resumed : Bool) (mode : Mode) (text : List Char) :
    (shownFrom resumed mode text).Sublist text := by
  induction text generalizing mode with
  | nil => exact List.Sublist.slnil
  | cons c rest ih =>
      simp only [shownFrom]
      split
      · exact (ih _).cons_cons c
      · exact (ih _).cons c

end ParallelCorpus.Text.Terminal
