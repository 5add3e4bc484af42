/-
The words of a command line, sorted into switches with their values and
plain words. A switch has a name after two hyphens, and may have a letter
after one; letters can share a hyphen. A value follows as the next word, or
in the same word: after an equals sign, or right behind the letter. After a
lone `--` every word is plain, and a lone `-` always is.

Nothing is guessed: an unknown switch, a value that is missing or not
wanted, and a switch that is given twice are all refused.
-/

namespace QueryText

-- ============================================================= switches

/-- A switch that a command line may hold. -/
structure Switch where
  name : String
  letter : Option Char := none
  /-- Whether a value belongs to it. -/
  valued : Bool := true
deriving DecidableEq

/-- Switches with the values they were given; one without a value has the
empty text. -/
abbrev Settings := List (Switch × String)

namespace Switch

/-- The switch of a name. -/
def ofName? (known : List Switch) (name : String) : Option Switch :=
  known.find? (·.name == name)

/-- The switch of a letter. -/
def ofLetter? (known : List Switch) (letter : Char) : Option Switch :=
  known.find? (·.letter == some letter)

end Switch

-- ============================================================ one word

/-- What a word of a command line is, by its hyphens. -/
inductive Argument
  | terminator
  | long (name : String) (value : Option String)
  | letters (cs : List Char)
  | word (text : String)
deriving DecidableEq

/-- Sorts a word. -/
def Argument.ofText (text : String) : Argument :=
  match text.toList with
  | ['-', '-'] => .terminator
  | '-' :: '-' :: cs =>
    let name := String.ofList (cs.takeWhile (· ≠ '='))
    match cs.dropWhile (· ≠ '=') with
    | [] => .long name none
    | _ :: value => .long name (some (String.ofList value))
  | '-' :: c :: cs => .letters (c :: cs)
  | _ => .word text

namespace Settings

/-- Reads the switches of one hyphen: those that are complete, and the one
that waits for the next word as its value. -/
def ofLetters? (known : List Switch) : List Char → Option (Settings × Option Switch)
  | [] => some ([], none)
  | c :: cs => do
    let s ← Switch.ofLetter? known c
    if s.valued then
      match cs with
      | [] => return ([], some s)
      | '=' :: value => return ([(s, String.ofList value)], none)
      | value => return ([(s, String.ofList value)], none)
    else
      let (settings, waiting) ← ofLetters? known cs
      return ((s, "") :: settings, waiting)

/-- Reads the switch of two hyphens, in the same way. -/
def ofLong? (known : List Switch) (name : String) (value : Option String) :
    Option (Settings × Option Switch) := do
  let s ← Switch.ofName? known name
  match s.valued, value with
  | true, some v => return ([(s, v)], none)
  | true, none => return ([], some s)
  | false, none => return ([(s, "")], none)
  | false, some _ => none

/-- Whether no switch is given twice. -/
def areDistinct (settings : Settings) : Bool :=
  (settings.map (·.1.name)).Nodup

/-- The value that a switch was given. -/
def value? (settings : Settings) (s : Switch) : Option String :=
  settings.lookup s

/-- Whether a switch was given. -/
def has (settings : Settings) (s : Switch) : Bool :=
  (settings.value? s).isSome

end Settings

-- ============================================================ all words

/-- The words of a command line, sorted. -/
structure Arguments where
  settings : Settings := []
  words : List String := []
deriving DecidableEq

namespace Arguments

/-- The words with more switches before them. -/
def prepend (settings : Settings) (args : Arguments) : Arguments :=
  { args with settings := settings ++ args.settings }

/-- Sorts words, where a switch may be waiting for its value. With `leading`
only the switches at the start are read: the first plain word is kept with
all that follows it, and there is no terminator. -/
def read? (known : List Switch) (leading : Bool) :
    Option Switch → List String → Option Arguments
  | none, [] => some {}
  | some _, [] => none
  | waiting, text :: rest =>
    match waiting, Argument.ofText text with
    | some s, .word value => (read? known leading none rest).map (prepend [(s, value)])
    | some _, _ => none
    | none, .word w =>
      if leading then some { words := w :: rest }
      else do
        let args ← read? known leading none rest
        return { args with words := w :: args.words }
    | none, .terminator => if leading then none else some { words := rest }
    | none, .letters cs => do
      let (settings, waiting) ← Settings.ofLetters? known cs
      return (← read? known leading waiting rest).prepend settings
    | none, .long name value => do
      let (settings, waiting) ← Settings.ofLong? known name value
      return (← read? known leading waiting rest).prepend settings

end Arguments
end QueryText
