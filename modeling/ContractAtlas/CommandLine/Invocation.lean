import ContractAtlas.CommandLine.Syntax

/-!
# Invocations

The commands of the program with their arguments. The data directory and the verbosity may be given
before or after the name of the command, and the directory that is given after it wins.
-/

namespace ContractAtlas.CommandLine

/-- What to crawl, and how. -/
structure CrawlArguments where
  target : Option String := none
  level : Option Nat := none
  serviceUrl : Option String := none
  dispatchesPerWindow : Option Nat := none
  asJson : Bool := false
deriving DecidableEq, Repr

/-- What to map, and how. -/
structure MapArguments where
  /-- The target, none to map every session that has not been mapped. -/
  target : Option String := none
  nodeUrl : Option String := none
  asJson : Bool := false
deriving DecidableEq, Repr

/-- How to show the graph. -/
structure GraphArguments where
  excludeZero : Bool := false
  asJson : Bool := false
  output : Option String := none
deriving DecidableEq, Repr

/-- A command with its arguments. -/
inductive Command where
  | crawl (arguments : CrawlArguments)
  | map (arguments : MapArguments)
  | graph (arguments : GraphArguments)
  | index
  | list (header : Bool)
  | server (bind : String)
deriving DecidableEq, Repr

/-- A command with the arguments that all commands share. -/
structure Invocation where
  dataDirectory : Option String
  isVerbose : Bool
  command : Command
deriving DecidableEq, Repr

/-- The address that the server binds unless another one is given. -/
def defaultBind : String := "127.0.0.1:5050"

/-- The names of the commands. -/
inductive CommandName where
  | crawl
  | map
  | graph
  | index
  | list
  | server
deriving DecidableEq, Repr

namespace CommandName

/-- The command of a name. -/
def ofText? (text : String) : Option CommandName :=
  match text with
  | "crawl" => some .crawl
  | "map" => some .map
  | "graph" => some .graph
  | "index" => some .index
  | "list" => some .list
  | "server" => some .server
  | _ => none

/-- The options that every command takes. -/
def commonOptions : List OptionSpec :=
  [⟨"data-dir", none, .takes .path⟩,
   ⟨"verbose", some 'v', .flag⟩,
   ⟨"help", some 'h', .displays .displayHelp⟩]

/-- The option of a document instead of a text. -/
def jsonOption : OptionSpec := ⟨"json", none, .flag⟩

/-- The options of a command. -/
def ownOptions : CommandName -> List OptionSpec
  | .crawl =>
      [⟨"level", some 'l', .takes (.number (Nat.pow 2 32) true)⟩,
       ⟨"dispatch-url", none, .takes .text⟩,
       ⟨"max-dispatches", none, .takes (.number (Nat.pow 2 64) false)⟩,
       jsonOption]
  | .map => [⟨"all", none, .flag⟩, ⟨"rpc-url", none, .takes .text⟩, jsonOption]
  | .graph => [⟨"exclude-zero", none, .flag⟩, jsonOption, ⟨"output", none, .takes .path⟩]
  | .index => []
  | .list => [⟨"header", none, .flag⟩]
  | .server => [⟨"bind", some 'b', .takes .text⟩]

/-- Whether a command takes a target. -/
def takesTarget : CommandName -> Bool
  | .crawl => true
  | .map => true
  | _ => false

/-- The syntax of a command. -/
def spec (name : CommandName) : CommandSpec :=
  { options := commonOptions ++ name.ownOptions, takesOperand := name.takesTarget }

end CommandName

namespace Command

/-- The crawl that a reading describes. -/
def crawlOf (reading : Reading) : Command :=
  .crawl
    { target := reading.operand
      level := (reading.value? "level").bind signedNumber?
      serviceUrl := reading.value? "dispatch-url"
      dispatchesPerWindow := (reading.value? "max-dispatches").bind number?
      asJson := reading.has "json" }

/-- The mapping that a reading describes: of a target or of everything, but not of both. -/
def mapOf (reading : Reading) : Except UsageError Command :=
  let arguments (target : Option String) : Command :=
    .map { target, nodeUrl := reading.value? "rpc-url", asJson := reading.has "json" }
  match reading.has "all", reading.operand with
  | true, some _ => .error .argumentConflict
  | false, none => .error .missingRequiredArgument
  | _, target => .ok (arguments target)

/-- The command that a reading describes. -/
def ofReading (name : CommandName) (reading : Reading) : Except UsageError Command :=
  match name with
  | .crawl => .ok (crawlOf reading)
  | .map => mapOf reading
  | .graph =>
      .ok (.graph
        { excludeZero := reading.has "exclude-zero"
          asJson := reading.has "json"
          output := reading.value? "output" })
  | .index => .ok .index
  | .list => .ok (.list (reading.has "header"))
  | .server => .ok (.server ((reading.value? "bind").getD defaultBind))

end Command

namespace Invocation

/-- The syntax of what stands before the name of a command. -/
def frontSpec : CommandSpec :=
  { options := CommandName.commonOptions ++ [⟨"version", some 'V', .displays .displayVersion⟩] }

/-- Whether a word names a command or the help. -/
def isCommandWord (word : String) : Bool :=
  word = "help" || (CommandName.ofText? word).isSome

/-- What a request for help leads to, which may name a command. The help on help has no parts. -/
def help : List String -> UsageError
  | [] => .displayHelp
  | [word] => if isCommandWord word then .displayHelp else .invalidSubcommand
  | _ => .invalidSubcommand

/-- The invocation of a command with its own arguments, after what stands before its name. -/
def ofCommand (front : Reading) (name : CommandName) (arguments : List String) :
    Except UsageError Invocation := do
  let own <- Reading.takeAll name.spec {} arguments
  let command <- Command.ofReading name own
  let front <- front.settle
  return {
    dataDirectory := (own.value? "data-dir").orElse fun _ => front.value? "data-dir"
    isVerbose := own.has "verbose" || front.has "verbose"
    command }

/-- What a reading without a command leads to. -/
def withoutCommand (front : Reading) : Except UsageError Invocation := do
  let front <- front.settle
  if front.isEmpty then throw .displayHelpOnMissingArgumentOrSubcommand
  else throw .missingSubcommand

/-- What a word that is no option leads to when it does not name a command in its place. -/
def strayWord (front : Reading) (word : String) : UsageError :=
  if front.onlyOperands && isCommandWord word then .unknownArgument else .invalidSubcommand

/-- Whether an argument is a word in a place where no option waits for a value. -/
def isWordHere (front : Reading) (argument : String) : Bool :=
  front.onlyOperands ||
    (!front.awaitsValue && (argument = "-" || !"-".toList.isPrefixOf argument.toList))

/-- The invocation of arguments after what stands before the name of a command. -/
def ofArgumentsFrom (front : Reading) : List String -> Except UsageError Invocation
  | [] => withoutCommand front
  | argument :: later =>
      if isWordHere front argument then
        match front.onlyOperands, CommandName.ofText? argument with
        | false, some name => ofCommand front name later
        | onlyOperands, _ =>
            if !onlyOperands && argument = "help" then .error (help later)
            else .error (strayWord front argument)
      else do
        ofArgumentsFrom (<- front.take frontSpec argument) later

/-- The invocation that a list of arguments describes. -/
def ofArguments (arguments : List String) : Except UsageError Invocation :=
  ofArgumentsFrom {} arguments

end Invocation

end ContractAtlas.CommandLine
