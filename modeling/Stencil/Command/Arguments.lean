import Stencil.Text.Basic

/-!
# Arguments

The words behind the name of a program are options, values of options, and operands. An
option is given by its name behind two dashes or by its letter behind one dash; letters may
share a dash. A value is attached to its option or is the next word, provided that this word
is no option itself. Behind two lone dashes every word is an operand.

## Main definitions

* `OptionRule`, `Level`: the options, the operands and the commands that are understood
* `Word`: what a word looks like
* `Stop`: why reading ends early
* `Reading`, `Level.read`: what the words say
-/

namespace Stencil.Command

/-! ### Rules -/

/-- How many values an option takes. -/
inductive Arity where
  /-- No value. -/
  | none
  /-- One value. -/
  | one
  /-- A value that may be missing. -/
  | atMostOne
  deriving DecidableEq, Repr

/-- An option that is understood. -/
structure OptionRule where
  /-- The name. -/
  name : Text
  /-- The letter that stands for the name. -/
  letter : Option Char := none
  /-- The number of values. -/
  arity : Arity := .none
  /-- Whether the option may be given more than once. -/
  repeatable : Bool := false
  /-- The values that are accepted. -/
  accepts : Text → Bool := fun _ => true

/-- What is understood behind the name of a program or of one of its commands. -/
structure Level where
  /-- The options. -/
  options : List OptionRule
  /-- The names of the operands, all of which have to be given. -/
  operands : List Text := []
  /-- The names of the commands. -/
  commands : List Text := []

/-! ### Words -/

/-- What a word looks like. -/
inductive Word where
  /-- A value or an operand; a lone dash is one. -/
  | plain (text : Text)
  /-- A name behind two dashes, with what follows an equals sign. -/
  | named (name : Text) (attached : Option Text)
  /-- Letters behind one dash. -/
  | letters (letters : Text)
  /-- Two lone dashes. -/
  | ending
  deriving DecidableEq, Repr

/-- What a word looks like. -/
def Word.ofText : Text → Word
  | ['-', '-'] => .ending
  | '-' :: '-' :: rest =>
    match Text.cut? ['='] rest with
    | some (name, value) => .named name (some value)
    | none => .named rest none
  | '-' :: c :: rest => .letters (c :: rest)
  | text => .plain text

/-! ### Reading -/

/-- What is wrong with the arguments. -/
inductive UsageFault where
  /-- An option is not known. -/
  | unknownOption (option : Text)
  /-- An option lacks its value. -/
  | missingValue (option : Text)
  /-- An option takes no value. -/
  | unwantedValue (option : Text)
  /-- An option does not accept its value. -/
  | unacceptedValue (option value : Text)
  /-- An option is given twice. -/
  | repeated (option : Text)
  /-- A command is not known. -/
  | unknownCommand (word : Text)
  /-- There are more operands than expected. -/
  | surplusOperand (word : Text)
  /-- An operand is empty. -/
  | emptyOperand (name : Text)
  /-- An operand is missing. -/
  | missingOperand (name : Text)
  deriving DecidableEq, Repr

/-- The wording of a fault. -/
def UsageFault.message : UsageFault → Text
  | unknownOption option => "unexpected argument ".toList ++ option.ticked
  | missingValue option => "a value is required for ".toList ++ option.ticked
  | unwantedValue option => "no value is expected for ".toList ++ option.ticked
  | unacceptedValue option value =>
    "invalid value ".toList ++ value.ticked ++ " for ".toList ++ option.ticked
  | repeated option => option.ticked ++ " cannot be used multiple times".toList
  | unknownCommand word => "unrecognized subcommand ".toList ++ word.ticked
  | surplusOperand word => "unexpected argument ".toList ++ word.ticked
  | emptyOperand name => "a value is required for ".toList ++ name.ticked
  | missingOperand name => "the required argument ".toList ++ name.ticked ++ " is missing".toList

/-- Why reading ends early. -/
inductive Stop where
  /-- Something is wrong. -/
  | fault (fault : UsageFault)
  /-- Help is asked for. -/
  | help
  /-- The version is asked for. -/
  | version
  deriving DecidableEq, Repr

/-- What has been read. -/
structure Reading where
  /-- The options, in the order in which they were given, with their values. -/
  given : List (Text × Option Text) := []
  /-- The operands. -/
  operands : List Text := []
  /-- The command and all words behind it. -/
  command : Option (Text × List Text) := none
  deriving DecidableEq, Repr

namespace Reading

/-- Whether an option was given. -/
def has (reading : Reading) (name : Text) : Bool :=
  reading.given.any fun (key, _) => key == name

/-- The value of an option. -/
def value? (reading : Reading) (name : Text) : Option Text :=
  (reading.given.lookup name).join

/-- All values of an option. -/
def values (reading : Reading) (name : Text) : List Text :=
  reading.given.filterMap fun (key, value?) => if key = name then value? else none

/-- Takes note of an option. Help and version end the reading. -/
def note (reading : Reading) (rule : OptionRule) (value? : Option Text) : Except Stop Reading :=
  if rule.name = "help" then throw .help
  else if rule.name = "version" then throw .version
  else if reading.has rule.name && !rule.repeatable then throw (.fault (.repeated rule.name))
  else
    match value?.filter fun value => !rule.accepts value with
    | some value => throw (.fault (.unacceptedValue rule.name value))
    | none => return { reading with given := reading.given ++ [(rule.name, value?)] }

/-- Takes note of an option that waited for a value in vain. -/
def settle (reading : Reading) : (waiting : Option OptionRule) → Except Stop Reading
  | none => return reading
  | some rule =>
    if rule.arity = .one then throw (.fault (.missingValue rule.name))
    else reading.note rule none

end Reading

namespace Level

/-- Takes an operand. -/
def takeOperand (level : Level) (reading : Reading) (text : Text) : Except Stop Reading :=
  match level.operands[reading.operands.length]? with
  | none =>
    throw (.fault (if level.commands = [] then .surplusOperand text else .unknownCommand text))
  | some name =>
    if text = [] then throw (.fault (.emptyOperand name))
    else return { reading with operands := reading.operands ++ [text] }

/-- Takes the letters behind a dash. What follows the letter of an option with a value is
this value, behind an equals sign or not; without it the option waits for one. -/
def takeLetters (level : Level) (reading : Reading) :
    Text → Except Stop (Reading × Option OptionRule)
  | [] => return (reading, none)
  | c :: rest =>
    match level.options.find? fun rule => rule.letter == some c with
    | none => throw (.fault (.unknownOption ['-', c]))
    | some rule =>
      if rule.arity = .none then do level.takeLetters (← reading.note rule none) rest
      else
        match rest with
        | [] => return (reading, some rule)
        | '=' :: value => do return (← reading.note rule (some value), none)
        | value => do return (← reading.note rule (some value), none)

/-- Takes a name behind two dashes; the option may wait for its value then. -/
def takeNamed (level : Level) (reading : Reading) (name : Text) (attached : Option Text) :
    Except Stop (Reading × Option OptionRule) :=
  match level.options.find? fun rule => rule.name == name with
  | none => throw (.fault (.unknownOption ('-' :: '-' :: name)))
  | some rule =>
    match rule.arity, attached with
    | .none, none => do return (← reading.note rule none, none)
    | .none, some _ => throw (.fault (.unwantedValue name))
    | _, some value => do return (← reading.note rule (some value), none)
    | _, none => return (reading, some rule)

/-- Reads words, given what was read before and the option that waits for its value. A
command ends the reading; the words behind it are left to its own level. -/
def readFrom (level : Level) (reading : Reading) (waiting : Option OptionRule) :
    List Text → Except Stop Reading
  | [] => reading.settle waiting
  | word :: rest =>
    match Word.ofText word with
    | .ending => do rest.foldlM level.takeOperand (← reading.settle waiting)
    | .named name attached => do
      let (reading, waiting) ← level.takeNamed (← reading.settle waiting) name attached
      level.readFrom reading waiting rest
    | .letters letters => do
      let (reading, waiting) ← level.takeLetters (← reading.settle waiting) letters
      level.readFrom reading waiting rest
    | .plain text =>
      match waiting with
      | some rule => do level.readFrom (← reading.note rule (some text)) none rest
      | none =>
        if level.commands.contains text then
          return { reading with command := some (text, rest) }
        else do level.readFrom (← level.takeOperand reading text) none rest

/-- Reads all words; no operand may be missing. -/
def read (level : Level) (words : List Text) : Except Stop Reading := do
  let reading ← level.readFrom {} none words
  match level.operands[reading.operands.length]? with
  | some name => throw (.fault (.missingOperand name))
  | none => return reading

end Level

end Stencil.Command
