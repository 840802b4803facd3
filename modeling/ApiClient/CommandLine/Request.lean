import ApiClient.CommandLine.Arguments

/-! What a user asks for. -/

namespace ApiClient.CommandLine

inductive Request where
  | version
  | help
  | generate (source : Text) (directory config : Option Text)
  | misuse
  deriving DecidableEq, Repr

/-- A request, and whether every message is to be shown. -/
structure Invocation where
  request : Request
  verbose : Bool := false
  deriving DecidableEq, Repr

/-- The options before the command. -/
def generalOptions : List OptionKind :=
  [{ name := "version", letter := some (.char 'v') }, { name := "verbose" }, { name := "help" }]

/-- The options of the command. -/
def commandOptions : List OptionKind :=
  [{ name := "dir", letter := some (.char 'd'), takesValue := true },
    { name := "config", letter := some (.char 'c'), takesValue := true }, { name := "help" }]

def commandName : Text := "get"

/-- The first request among options that is met at once, whatever else is asked for. -/
def immediate? (parsed : Parsed) : Option Request :=
  parsed.given.findSome? fun option =>
    if option.name = ("version" : Text) then some .version
    else if option.name = ("help" : Text) then some .help
    else none

def commandRequest (arguments : List Text) : Request :=
  match parse commandOptions true arguments with
  | none => .misuse
  | some parsed =>
    match immediate? parsed, parsed.operands with
    | some request, _ => request
    | none, [source] => .generate source (parsed.value? "dir") (parsed.value? "config")
    | none, _ => .misuse

/-- What comes in place of a command. It may be an option that a double hyphen has passed by. -/
def otherRequest (arguments : List Text) : Request :=
  ((parse generalOptions false arguments).bind immediate?).getD .misuse

def Invocation.ofArguments (arguments : List Text) : Invocation :=
  match parse generalOptions false arguments with
  | none => { request := .misuse }
  | some parsed =>
    match immediate? parsed, parsed.operands with
    | some request, _ => { request }
    | none, [] => { request := .misuse }
    | none, command :: rest =>
      if command = commandName then
        { request := commandRequest rest, verbose := parsed.has "verbose" }
      else { request := otherRequest (command :: rest) }

example : (Invocation.ofArguments ["--verbose", "get", "api.json", "-dout"]) =
    ⟨.generate "api.json" (some "out") none, true⟩ := by decide

example : (Invocation.ofArguments ["--verbose", "put"]) = ⟨.misuse, false⟩ := by decide

end ApiClient.CommandLine
