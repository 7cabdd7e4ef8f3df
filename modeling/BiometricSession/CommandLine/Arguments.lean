import BiometricSession.CommandLine.Help
import BiometricSession.Replay.Line

/-!
# Arguments

The program takes a command with its options and, to replay, the path of a
script.  Options may stand before and after the script, `--verbose` also before
the command.  The value of an option is attached with an equals sign, follows
as an argument of its own, or, for a short option, is attached directly.  After
a double hyphen there are no more options.  Arguments are read from the left: the
first mistake or request for help decides.
-/

namespace BiometricSession

/-- What the program can be asked to do. -/
inductive Command where
  | replay (script : String) (config : Option String) (format : OutputFormat)
      (owner : Option UInt32)
  /-- Print the configuration with its defaults filled in. -/
  | checkConfig (config : Option String)
  deriving DecidableEq, Repr

/-- What the arguments of the program say. -/
structure Invocation where
  verbose : Bool
  command : Command
  deriving DecidableEq, Repr

/-- Options that take a value. -/
inductive ValueOption where
  | config
  | format
  | owner
  deriving DecidableEq, Repr

namespace ValueOption

def name : ValueOption → String
  | config => "config"
  | format => "format"
  | owner => "owner-pid"

def letter? : ValueOption → Option Char
  | config => some 'c'
  | format | owner => none

end ValueOption

/-- Why arguments are not understood. -/
inductive ArgumentError where
  | missingCommand
  | unknownCommand (name : String)
  | unexpected (argument : String)
  | repeated (name : String)
  | missingValue (option : ValueOption)
  | invalidValue (option : ValueOption) (value : String)
  | missingScript
  | emptyScript
  deriving DecidableEq, Repr

namespace ArgumentError

def message : ArgumentError → String
  | missingCommand => "a command is missing"
  | unknownCommand name => "there is no command " ++ name
  | unexpected argument => "unexpected argument " ++ argument
  | repeated name => "--" ++ name ++ " may be given only once"
  | missingValue option => "--" ++ option.name ++ " needs a value"
  | invalidValue option value => "--" ++ option.name ++ " cannot be " ++ value
  | missingScript => "the path of a script is missing"
  | emptyScript => "the path of the script is empty"

end ArgumentError

/-- Why the program is not to carry out a command. -/
inductive Refusal where
  | mistake (error : ArgumentError)
  | helpWanted (page : HelpPage)
  deriving DecidableEq, Repr

instance : MonadLift (Except ArgumentError) (Except Refusal) :=
  ⟨Except.mapError .mistake⟩

/-- One argument by its form. -/
inductive Word where
  /-- A double hyphen: there are no more options. -/
  | lastOption
  | long (name : String) (value : Option String)
  | short (letter : Char) (others : List Char)
  | plain (text : String)
  deriving DecidableEq, Repr

namespace Word

/-- The value after the equals sign of a long option. -/
def attached : List Char → Option String
  | _ :: value => some (String.ofList value)
  | [] => none

/-- The form of an argument.  A lone hyphen is a plain word. -/
def ofText (text : String) : Word :=
  match text.toList with
  | ['-', '-'] => lastOption
  | '-' :: '-' :: rest =>
      long (String.ofList (rest.takeWhile (· ≠ '='))) (attached (rest.dropWhile (· ≠ '=')))
  | '-' :: letter :: others => short letter others
  | _ => plain text

end Word

/-- What the arguments have said so far. -/
structure Arguments where
  verbose : Bool
  script : Option String
  config : Option String
  format : Option OutputFormat
  owner : Option UInt32
  deriving DecidableEq, Repr

/-- What may stand after a command. -/
structure CommandForm where
  options : List ValueOption
  takesScript : Bool
  /-- The page about it, in brief or in detail. -/
  page : Bool → HelpPage

namespace CommandForm

/-- Before the command, only `--verbose` may stand. -/
def beforeCommand : CommandForm :=
  ⟨[], false, fun _ => .program⟩

def replay : CommandForm :=
  ⟨[.config, .format, .owner], true, .replay⟩

def checkConfig : CommandForm :=
  ⟨[.config], false, fun _ => .checkConfig⟩

end CommandForm

namespace Arguments

def empty : Arguments :=
  ⟨false, none, none, none, none⟩

/-- The number of a process: decimal digits after an optional sign. -/
def processNumber? (text : String) : Option UInt32 :=
  let (negative, digits) :=
    match text.toList with
    | '+' :: digits => (false, digits)
    | '-' :: digits => (true, digits)
    | digits => (false, digits)
  let number := Decimal.value digits
  if digits.isEmpty || digits.any (fun digit => !('0' ≤ digit && digit ≤ '9')) then
    none
  else if number = 0 || (!negative && number < UInt32.size) then
    some (UInt32.ofNat number)
  else
    none

/-- Fill a place that was empty so far. -/
def fill {Value : Type} (option : ValueOption) (old : Option Value) (new : Value) :
    Except ArgumentError (Option Value) :=
  match old with
  | none => .ok (some new)
  | some _ => .error (.repeated option.name)

def take (arguments : Arguments) (option : ValueOption) (value : String) :
    Except ArgumentError Arguments :=
  match option with
  | .config =>
      if value = "" then
        .error (.invalidValue option value)
      else do
        let config ← fill option arguments.config value
        return { arguments with config }
  | .format =>
      match OutputFormat.ofName? value with
      | some format => do
          let format ← fill option arguments.format format
          return { arguments with format }
      | none => .error (.invalidValue option value)
  | .owner =>
      match processNumber? value with
      | some owner => do
          let owner ← fill option arguments.owner owner
          return { arguments with owner }
      | none => .error (.invalidValue option value)

def takeVerbose (arguments : Arguments) : Except ArgumentError Arguments :=
  if arguments.verbose then
    .error (.repeated "verbose")
  else
    .ok { arguments with verbose := true }

def takePlain (form : CommandForm) (arguments : Arguments) (text : String) :
    Except ArgumentError Arguments :=
  if !form.takesScript || arguments.script.isSome then
    .error (.unexpected text)
  else if text = "" then
    .error .emptyScript
  else
    .ok { arguments with script := some text }

/-- Take a long option.  The answer also says which option still needs its
value. -/
def takeLong (form : CommandForm) (arguments : Arguments) (name : String)
    (value : Option String) : Except Refusal (Arguments × Option ValueOption) :=
  match form.options.find? (·.name == name), value with
  | some option, some value => do
      let arguments ← arguments.take option value
      return (arguments, none)
  | some option, none => .ok (arguments, some option)
  | none, none =>
      if name = "verbose" then do
        let arguments ← arguments.takeVerbose
        return (arguments, none)
      else if name = "help" then
        .error (.helpWanted (form.page true))
      else
        .error (.mistake (.unexpected ("--" ++ name)))
  | none, some _ => .error (.mistake (.unexpected ("--" ++ name)))

/-- Take the letters of short options.  What follows the letter of an option
with a value is that value. -/
def takeLetters (form : CommandForm) :
    List Char → Arguments → Except Refusal (Arguments × Option ValueOption)
  | [], arguments => .ok (arguments, none)
  | letter :: others, arguments =>
      match form.options.find? (·.letter? == some letter) with
      | some option =>
          match others with
          | [] => .ok (arguments, some option)
          | '=' :: value | value => do
              let arguments ← arguments.take option (String.ofList value)
              return (arguments, none)
      | none =>
          if letter = 'v' then do
            let arguments ← arguments.takeVerbose
            takeLetters form others arguments
          else if letter = 'h' then
            .error (.helpWanted (form.page false))
          else
            .error (.mistake (.unexpected ("-" ++ letter.toString)))

/-- Take arguments after the last option. -/
def takeAllPlain (form : CommandForm) :
    List String → Arguments → Except ArgumentError Arguments
  | [], arguments => .ok arguments
  | text :: texts, arguments => do
      let arguments ← arguments.takePlain form text
      takeAllPlain form texts arguments

/-- Take all arguments after a command, where an option may be waiting for its
value. -/
def takeAll (form : CommandForm) :
    List String → Option ValueOption → Arguments → Except Refusal Arguments
  | [], none, arguments => .ok arguments
  | [], some option, _ => .error (.mistake (.missingValue option))
  | text :: texts, some option, arguments =>
      match Word.ofText text with
      | .plain value => do
          let arguments ← arguments.take option value
          takeAll form texts none arguments
      | .lastOption | .long .. | .short .. => .error (.mistake (.missingValue option))
  | text :: texts, none, arguments =>
      match Word.ofText text with
      | .lastOption => liftM (takeAllPlain form texts arguments)
      | .plain plain => do
          let arguments ← arguments.takePlain form plain
          takeAll form texts none arguments
      | .long name value => do
          let (arguments, waiting) ← arguments.takeLong form name value
          takeAll form texts waiting arguments
      | .short letter others => do
          let (arguments, waiting) ← takeLetters form (letter :: others) arguments
          takeAll form texts waiting arguments

end Arguments

namespace Invocation

/-- The answer to a request for help by the names of commands. -/
def helpAnswer : List String → Refusal
  | [] => .helpWanted .program
  | ["replay"] => .helpWanted (.replay true)
  | ["check-config"] => .helpWanted .checkConfig
  | ["help"] => .helpWanted .help
  | names => .mistake (.unknownCommand (" ".intercalate names))

def ofCommand (verbose : Bool) (name : String) (texts : List String) :
    Except Refusal Invocation :=
  match name with
  | "replay" => do
      let arguments ← Arguments.takeAll .replay texts none .empty
      match arguments.script with
      | some script =>
          return ⟨verbose || arguments.verbose,
            .replay script arguments.config (arguments.format.getD .text) arguments.owner⟩
      | none => throw (.mistake .missingScript)
  | "check-config" => do
      let arguments ← Arguments.takeAll .checkConfig texts none .empty
      return ⟨verbose || arguments.verbose, .checkConfig arguments.config⟩
  | "help" => .error (helpAnswer texts)
  | other => .error (.mistake (.unknownCommand other))

/-- Read the arguments of the program, given what stood before the command so
far. -/
def ofArgumentsAfter : Arguments → List String → Except Refusal Invocation
  | _, [] => .error (.mistake .missingCommand)
  | earlier, text :: texts =>
      match Word.ofText text with
      | .plain name => ofCommand earlier.verbose name texts
      | .lastOption => .error (.mistake (.unexpected text))
      | .long name value => do
          let (earlier, _) ← earlier.takeLong .beforeCommand name value
          ofArgumentsAfter earlier texts
      | .short letter others => do
          let (earlier, _) ← Arguments.takeLetters .beforeCommand (letter :: others) earlier
          ofArgumentsAfter earlier texts

def ofArguments (texts : List String) : Except Refusal Invocation :=
  ofArgumentsAfter .empty texts

end Invocation

end BiometricSession
