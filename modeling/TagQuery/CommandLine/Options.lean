/-!
# Options on a command line

How the arguments of a command are taken apart.  An option is written `--name`,
`--name value`, `--name=value`, `-n value`, `-nvalue` or `-n=value`; every other
argument is an operand, and so is everything after `--`.  The arguments are
looked at from left to right, and the first thing that is wrong, or the first
request for help, ends it.
-/

namespace TagQuery.CommandLine

/-- Why a command is not carried out. -/
inductive Stop where
  | misuse
  | help
  deriving DecidableEq, Repr

/-- What becomes of an option; `none` refuses it. -/
inductive Effect (σ : Type) where
  /-- It stands alone. -/
  | flag (apply : σ → Option σ)
  /-- It takes a value. -/
  | value (apply : String → σ → Option σ)
  | help

/-- An option of a command; what was given so far is kept in a `σ`. -/
structure CommandOption (σ : Type) where
  long : String
  short : Option Char
  effect : Effect σ

namespace CommandOption

/-- The option that asks for help, which every command has. -/
def helpOption : CommandOption σ :=
  ⟨"help", some 'h', .help⟩

/-- Sets what has not been set before. -/
def setOnce (get : σ → Option α) (put : σ → α → σ) (x : α) (given : σ) : Option σ :=
  if (get given).isSome then none else some (put given x)

/-- An option that stands alone, at most once. -/
def flag (long : String) (get : σ → Bool) (put : σ → σ) : CommandOption σ :=
  ⟨long, none, .flag fun given => if get given then none else some (put given)⟩

/-- An option with a value, at most once. -/
def single (long : String) (read : String → Option α) (get : σ → Option α)
    (put : σ → α → σ) : CommandOption σ :=
  ⟨long, none, .value fun text given => (read text).bind (setOnce get put · given)⟩

/-- An option with a value, any number of times. -/
def repeated (long : String) (read : String → Option α) (put : σ → α → σ) :
    CommandOption σ :=
  ⟨long, none, .value fun text given => (read text).map (put given)⟩

/-- The option with a short name as well. -/
def shortened (letter : Char) (option : CommandOption σ) : CommandOption σ :=
  { option with short := some letter }

end CommandOption

/-- How an argument is read. -/
inductive Argument where
  /-- All that follow are operands. -/
  | ending
  /-- The long name of an option, and the value attached to it. -/
  | long (name : String) (attached : Option String)
  /-- The short name of an option, and the text attached to it. -/
  | short (letter : Char) (attached : Option String)
  | operand (text : String)
  deriving DecidableEq, Repr

namespace Argument

/-- The value after an equals sign, and what stands before the sign. -/
def splitValue (text : List Char) : String × Option String :=
  let name := String.ofList (text.takeWhile (· != '='))
  match text.dropWhile (· != '=') with
  | [] => (name, none)
  | _ :: value => (name, some (String.ofList value))

/-- The value attached to a short name, with or without an equals sign. -/
def attachedValue : List Char → Option String
  | [] => none
  | '=' :: value => some (String.ofList value)
  | value => some (String.ofList value)

/-- Reads an argument by its hyphens; a lone hyphen is an operand. -/
def ofString (s : String) : Argument :=
  match s.toList with
  | ['-', '-'] => .ending
  | '-' :: '-' :: text =>
    let (name, attached) := splitValue text
    .long name attached
  | '-' :: letter :: text => .short letter (attachedValue text)
  | _ => .operand s

end Argument

/-- How far the arguments were taken. -/
inductive Progress (σ : Type) where
  /-- What was given so far. -/
  | given (value : σ)
  /-- An option has to be followed by its value. -/
  | awaiting (apply : String → Option σ)

/-- What was given so far; what was refused is wrong. -/
def orMisuse : Option σ → Except Stop (Progress σ)
  | some value => .ok (.given value)
  | none => .error .misuse

/-- What an attached text is to an option by its letter: nothing, where it takes no value. -/
def Effect.valueOf (effect : Effect σ) (attached : Option String) : Option String :=
  match effect with
  | .value _ => attached
  | .flag _ => none
  | .help => none

/-- Takes an option with the value that is attached to it. -/
def takeOption (option : CommandOption σ) (attached : Option String) (given : σ) :
    Except Stop (Progress σ) :=
  match option.effect, attached with
  | .help, none => .error .help
  | .help, some _ => .error .misuse
  | .flag apply, none => orMisuse (apply given)
  | .flag _, some _ => .error .misuse
  | .value apply, none => .ok (.awaiting (apply · given))
  | .value apply, some value => orMisuse (apply value given)

/-- Takes one argument that is no ending. -/
def takeArgument (options : List (CommandOption σ)) (operand : String → σ → Option σ)
    (progress : Progress σ) (argument : Argument) : Except Stop (Progress σ) :=
  match progress, argument with
  | .awaiting apply, .operand value => orMisuse (apply value)
  | .awaiting _, _ => .error .misuse
  | .given _, .ending => .error .misuse
  | .given given, .operand text => orMisuse (operand text given)
  | .given given, .long name attached =>
    match options.find? (·.long == name) with
    | some option => takeOption option attached given
    | none => .error .misuse
  | .given given, .short letter attached =>
    match options.find? (·.short == some letter) with
    | some option => takeOption option (option.effect.valueOf attached) given
    | none => .error .misuse

/-- Takes operands only. -/
def takeOperands (operand : String → σ → Option σ) (given : σ) :
    List String → Except Stop σ
  | [] => .ok given
  | text :: rest =>
    match operand text given with
    | some given => takeOperands operand given rest
    | none => .error .misuse

/-- Takes all arguments of a command. -/
def takeAll (options : List (CommandOption σ)) (operand : String → σ → Option σ) :
    Progress σ → List String → Except Stop σ
  | .given given, [] => .ok given
  | .awaiting _, [] => .error .misuse
  | progress, arg :: rest => do
    match progress, Argument.ofString arg with
    | .given given, .ending => takeOperands operand given rest
    | progress, argument =>
      takeAll options operand (← takeArgument options operand progress argument) rest

end TagQuery.CommandLine
