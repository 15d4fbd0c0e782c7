import FrameChat.Bytes

/-!
# Control sequences

Besides characters that are shown, a text can hold controls: single ones, and
sequences that an escape character begins and that tell a terminal what to do.
Where no terminal reads along, only what would have been shown is kept, and
white space.

A reader of such a text either looks for something to show, and then heeds the
sequence that is open, or is showing already and goes on as long as no control
comes.  White space is shown in the middle of a sequence too; the sequence then
stays open, and is heeded again after the next control.
-/

namespace FrameChat.Text.ControlSequence

/-- How far a command with parameters is read. -/
inductive Stage where
  | entry
  | parameters
  /-- marks between the parameters and the letter that ends the command -/
  | marks
  /-- out of order; what is left of the command is passed over -/
  | disorder
  deriving DecidableEq, Repr

/-- The sequence that is open at a place of a text. -/
inductive Within where
  | nothing
  /-- an escape character has just been read -/
  | escape
  /-- marks follow an escape character -/
  | marks
  /-- a command to the terminal -/
  | command (stage : Stage)
  /-- a command that announces data -/
  | announcement (stage : Stage)
  /-- data, or a message to somebody else -/
  | data
  /-- a text for the terminal itself, such as its title -/
  | title
  deriving DecidableEq, Repr

/-- A control: its code point lies before that of the space. -/
def isControl (char : Char) : Bool :=
  char < ' '

/-- The controls that are white space and are shown as such. -/
def isSpacing (char : Char) : Bool :=
  char = '\t' || char = '\n' || char = '\x0c' || char = '\r'

/-- Whether one of the UTF-8 bytes of a character is the one that ends data. -/
def endsData (char : Char) : Bool :=
  (Bytes.ofText (String.singleton char)).contains 0x9C

/-- The stage after a character between space and tilde; `none` if it ends the command. -/
def Stage.next? (stage : Stage) (char : Char) : Option Stage :=
  if '@' ≤ char then none
  else
    match stage with
    | .disorder => some .disorder
    | .entry => if char < '0' then some .marks else some .parameters
    | .parameters =>
        if char < '0' then some .marks
        else if char < '<' then some .parameters
        else some .disorder
    | .marks => if char < '0' then some .marks else some .disorder

/-- What is open after the character behind an escape character. -/
def afterEscape (char : Char) : Within :=
  match char with
  | '[' => .command .entry
  | ']' => .title
  | 'P' => .announcement .entry
  | 'X' | '^' | '_' => .data
  | char => if char < '0' then .marks else .nothing

/-- What is open after a character from space to tilde. -/
def afterVisible (char : Char) : Within → Within
  | .nothing => .nothing
  | .escape => afterEscape char
  | .marks => if char < '0' then .marks else .nothing
  | .command stage => ((stage.next? char).map .command).getD .nothing
  | .announcement stage =>
      match stage.next? char with
      | none | some .disorder => .data
      | some stage => .announcement stage
  | .data => .data
  | .title => .title

/-- What is open after a character. -/
def after (within : Within) (char : Char) : Within :=
  if char = '\x18' || char = '\x1a' then .nothing
  else if char = '\x1b' then .escape
  else if ' ' ≤ char && char ≤ '~' then afterVisible char within
  else
    match within with
    | .title => if char = '\x07' then .nothing else .title
    | .data => if endsData char then .nothing else .data
    | within => within

/-- Whether a character is shown. -/
def shows : Within → Char → Bool
  | .nothing, char => isSpacing char || !(isControl char || char = '\x7f')
  | .escape, char | .marks, char | .command _, char => isSpacing char
  | .announcement _, _ | .data, _ | .title, _ => false

/-- A reader of a text. -/
structure Reader where
  within : Within
  /-- whether the last character was shown -/
  showing : Bool
  deriving DecidableEq, Repr

namespace Reader

/-- A reader before the first character. -/
def start : Reader :=
  ⟨.nothing, false⟩

/-- Read a character; whether it is shown is returned. -/
def read (reader : Reader) (char : Char) : Bool × Reader :=
  if reader.showing && shows .nothing char then
    (true, if char ≤ '~' then reader else ⟨.nothing, true⟩)
  else
    let shown := shows reader.within char
    (shown, ⟨after reader.within char, shown⟩)

/-- The characters that are shown. -/
def shown (reader : Reader) : List Char → List Char
  | [] => []
  | char :: rest =>
      let (seen, reader) := reader.read char
      if seen then char :: reader.shown rest else reader.shown rest

/-- Where no sequence is open, a text without controls is shown as it is. -/
theorem shown_of_visible (showing : Bool) (chars : List Char)
    (visible : ∀ char ∈ chars, ' ' ≤ char ∧ char ≤ '~') :
    shown ⟨.nothing, showing⟩ chars = chars := by
  induction chars generalizing showing with
  | nil => rfl
  | cons char rest ih =>
      have bounds := visible char (by simp)
      have noControl : isControl char = false := by
        simpa [isControl] using bounds.1
      have noDelete : char ≠ '\x7f' := by
        rintro rfl
        exact absurd bounds.2 (by decide)
      have noCancel : char ≠ '\x18' ∧ char ≠ '\x1a' ∧ char ≠ '\x1b' := by
        refine ⟨?_, ?_, ?_⟩ <;> (rintro rfl; exact absurd bounds.1 (by decide))
      have seen : shows .nothing char = true := by
        simp [shows, noControl, noDelete]
      have next : after .nothing char = .nothing := by
        simp [after, noCancel, bounds, afterVisible]
      have tail := fun showing => ih showing fun other member => visible other (by simp [member])
      cases showing <;> simp [shown, read, seen, next, bounds, tail]

end Reader

/-- What is shown of a text. -/
def stripped (text : String) : String :=
  String.ofList (Reader.start.shown text.toList)

end FrameChat.Text.ControlSequence
