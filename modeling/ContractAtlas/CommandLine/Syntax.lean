import ContractAtlas.Text.Search

/-!
# Command line syntax

Options are written `--name value`, `--name=value`, `-n value`, `-nvalue` or `-n=value`, flags
`--name` or `-n`, and short flags may be joined. After two dashes alone everything is an operand. An
argument is read at a time: an option waits for its value, and the value is checked when the next
argument that is not its value comes up. No option or flag may be given twice.
-/

namespace ContractAtlas.CommandLine

open Text

/-- Why arguments are not carried out. -/
inductive UsageError where
  | unknownArgument
  | invalidValue
  | valueValidation
  | tooManyValues
  | missingRequiredArgument
  | argumentConflict
  | invalidSubcommand
  | missingSubcommand
  | displayHelp
  | displayVersion
  | displayHelpOnMissingArgumentOrSubcommand
deriving DecidableEq, Repr

/-- The name of a usage error. -/
def UsageError.name : UsageError -> String
  | .unknownArgument => "UnknownArgument"
  | .invalidValue => "InvalidValue"
  | .valueValidation => "ValueValidation"
  | .tooManyValues => "TooManyValues"
  | .missingRequiredArgument => "MissingRequiredArgument"
  | .argumentConflict => "ArgumentConflict"
  | .invalidSubcommand => "InvalidSubcommand"
  | .missingSubcommand => "MissingSubcommand"
  | .displayHelp => "DisplayHelp"
  | .displayVersion => "DisplayVersion"
  | .displayHelpOnMissingArgumentOrSubcommand => "DisplayHelpOnMissingArgumentOrSubcommand"

/-- What the value of an option has to be. -/
inductive ValueKind where
  | text
  | path
  /-- A number below a bound, which may be written as minus zero if it is read as a signed one. -/
  | number (bound : Nat) (isSigned : Bool)
deriving DecidableEq, Repr

/-- The number that a text writes, with or without a plus sign. -/
def number? (text : String) : Option Nat :=
  match text.toList with
  | '+' :: digits => decimalValue? digits
  | digits => decimalValue? digits

/-- The number that a text writes as a signed number. -/
def signedNumber? (text : String) : Option Nat :=
  match text.toList with
  | '-' :: digits => (decimalValue? digits).filter (· = 0)
  | _ => number? text

/-- The number that a text writes, signed or not. -/
def numberOf? (isSigned : Bool) (text : String) : Option Nat :=
  if isSigned then signedNumber? text else number? text

/-- What is wrong with the value of an option, if anything. -/
def ValueKind.fault? (kind : ValueKind) (value : String) : Option UsageError :=
  match kind with
  | .text => none
  | .path => if value.isEmpty then some .invalidValue else none
  | .number bound isSigned =>
      match numberOf? isSigned value with
      | some read => if read < bound then none else some .valueValidation
      | none => some .valueValidation

/-- What an option does. -/
inductive OptionRole where
  | flag
  | takes (kind : ValueKind)
  /-- It ends the reading with a display. -/
  | displays (request : UsageError)
deriving DecidableEq, Repr

/-- An option of a command. -/
structure OptionSpec where
  long : String
  short : Option Char := none
  role : OptionRole
deriving DecidableEq, Repr

/-- The syntax of a command. -/
structure CommandSpec where
  options : List OptionSpec
  /-- Whether the command takes an operand. -/
  takesOperand : Bool := false

/-- What has been read of the arguments of a command. -/
structure Reading where
  /-- The options that were given, with their values, and the flags. -/
  given : List (String × String) := []
  /-- The latest option with a value, which is missing while the option waits for it. -/
  pending : Option (OptionSpec × ValueKind × Option String) := none
  operand : Option String := none
  /-- Whether everything that follows is an operand. -/
  onlyOperands : Bool := false

namespace Reading

/-- Whether an option was given. -/
def has (reading : Reading) (option : String) : Bool :=
  reading.given.any fun given => given.1 = option

/-- The value of an option. -/
def value? (reading : Reading) (option : String) : Option String :=
  (reading.given.find? fun given => given.1 = option).map Prod.snd

/-- Whether nothing was given. -/
def isEmpty (reading : Reading) : Bool :=
  reading.given.isEmpty && reading.operand.isNone

/-- Whether an option waits for its value. -/
def awaitsValue (reading : Reading) : Bool :=
  match reading.pending with
  | some (_, _, none) => true
  | _ => false

/-- The reading with an option or flag recorded, which must not have been given before. -/
def record (reading : Reading) (option : OptionSpec) (value : String) :
    Except UsageError Reading :=
  if reading.has option.long then .error .argumentConflict
  else .ok { reading with given := reading.given ++ [(option.long, value)] }

/-- The reading with an option recorded whose value has been checked. -/
def recordValue (reading : Reading) (option : OptionSpec) (kind : ValueKind) (value : String) :
    Except UsageError Reading := do
  let recorded <- reading.record option value
  match kind.fault? value with
  | some fault => throw fault
  | none => return recorded

/-- The reading with the pending option recorded. -/
def settle (reading : Reading) : Except UsageError Reading :=
  let settled := { reading with pending := none }
  match reading.pending with
  | none => .ok settled
  | some (_, _, none) => .error .invalidValue
  | some (option, kind, some value) => settled.recordValue option kind value

/-- The reading after an option, with the value that is attached to it, if any. -/
def takeOption (reading : Reading) (option : OptionSpec) (attached : Option String) :
    Except UsageError Reading := do
  match option.role, attached with
  | .takes kind, some value => (<- reading.settle).recordValue option kind value
  | .takes kind, none => return { (<- reading.settle) with pending := some (option, kind, none) }
  | _, some _ => throw .tooManyValues
  | .flag, none => (<- reading.settle).record option ""
  | .displays request, none =>
      let _ <- reading.settle
      throw request

/-- The reading after a long option, given by what follows the two dashes. -/
def takeLong (spec : CommandSpec) (reading : Reading) (written : String) :
    Except UsageError Reading :=
  let (name, attached) := splitOnce '=' written
  match spec.options.find? fun option => option.long = name with
  | some option => reading.takeOption option attached
  | none => .error .unknownArgument

/-- The value attached to a short option, an equals sign in front left out. -/
def attachedValue : List Char -> Option String
  | [] => none
  | '=' :: value => some (String.ofList value)
  | value => some (String.ofList value)

/-- The reading after joined short options. -/
def takeShorts (spec : CommandSpec) (reading : Reading) : List Char -> Except UsageError Reading
  | [] => .ok reading
  | short :: later =>
      match spec.options.find? fun option => option.short = some short with
      | none => .error .unknownArgument
      | some option =>
          match option.role with
          | .takes _ => reading.takeOption option (attachedValue later)
          | _ => do takeShorts spec (<- reading.takeOption option none) later

/-- The reading after an operand. -/
def takeOperand (spec : CommandSpec) (reading : Reading) (operand : String) :
    Except UsageError Reading := do
  if spec.takesOperand && reading.operand.isNone then
    return { (<- reading.settle) with operand := some operand }
  else throw .unknownArgument

/-- The reading after one argument. -/
def take (spec : CommandSpec) (reading : Reading) (argument : String) :
    Except UsageError Reading :=
  if reading.onlyOperands then reading.takeOperand spec argument
  else
    match argument.toList with
    | ['-', '-'] => .ok { reading with onlyOperands := true }
    | '-' :: '-' :: written => reading.takeLong spec (String.ofList written)
    | '-' :: short :: shorts => reading.takeShorts spec (short :: shorts)
    | _ =>
        match reading.pending with
        | some (option, kind, none) =>
            .ok { reading with pending := some (option, kind, some argument) }
        | _ => reading.takeOperand spec argument

/-- The reading after all arguments of a command. -/
def takeAll (spec : CommandSpec) (reading : Reading) (arguments : List String) :
    Except UsageError Reading := do
  (<- arguments.foldlM (take spec) reading).settle

end Reading

end ContractAtlas.CommandLine
