import ApiClient.Text.CodePoint
import ApiClient.Text.Split

/-! Options among the arguments of a command. A long name stands alone, or before an equals sign and
a value; short names of several options may share one argument, and what follows the name of an
option that takes a value is that value. -/

namespace ApiClient.CommandLine

structure OptionKind where
  name : Text
  letter : Option CodePoint := none
  takesValue : Bool := false
  deriving DecidableEq, Repr

namespace OptionKind

def long (kind : OptionKind) : Text :=
  "--" ++ kind.name

end OptionKind

/-- An option that is given, with its value if it takes one. -/
structure GivenOption where
  name : Text
  value : Text := ""
  deriving DecidableEq, Repr

/-- The options in one argument, and the one among them that still wants its value. -/
structure Cluster where
  given : List GivenOption := []
  wanting : Option Text := none
  deriving DecidableEq, Repr

def letters (kinds : List OptionKind) : Text → Option Cluster
  | [] => some {}
  | letter :: rest => do
    let kind ← kinds.find? (·.letter == some letter)
    if kind.takesValue then
      return if rest.isEmpty then { wanting := some kind.name }
        else { given := [⟨kind.name, rest⟩] }
    else
      let cluster ← letters kinds rest
      return { cluster with given := ⟨kind.name, ""⟩ :: cluster.given }

/-- The options in an argument, if it holds none that are unknown or misused. -/
def cluster? (kinds : List OptionKind) (argument : Text) : Option Cluster :=
  let (name, setting) := Text.cut (· == CodePoint.char '=') argument
  match kinds.find? (·.long == name), setting with
  | some kind, [] =>
    some (if kind.takesValue then { wanting := some kind.name } else { given := [⟨kind.name, ""⟩] })
  | some kind, _ :: value =>
    if kind.takesValue then some { given := [⟨kind.name, value⟩] } else none
  | none, _ => if argument.take 2 = "--" then none else letters kinds (argument.drop 1)

def looksLikeOption (argument : Text) : Bool :=
  argument.head? == some '-' && argument != "-"

/-- Arguments told apart. -/
structure Parsed where
  given : List GivenOption := []
  operands : List Text := []
  deriving DecidableEq, Repr

namespace Parsed

def withOptions (options : List GivenOption) (parsed : Parsed) : Parsed :=
  { parsed with given := options ++ parsed.given }

def withOperand (operand : Text) (parsed : Parsed) : Parsed :=
  { parsed with operands := operand :: parsed.operands }

/-- The value of an option, the last one if it is given several times. -/
def value? (name : Text) (parsed : Parsed) : Option Text :=
  ((parsed.given.filter (·.name == name)).getLast?).map (·.value)

def has (name : Text) (parsed : Parsed) : Bool :=
  (parsed.value? name).isSome

end Parsed

/-- Tell options from operands, after an option that wants a value or none. Everything after a
double hyphen is an operand, and everything after the first operand too unless options may stand
behind operands. -/
def parseAfter (kinds : List OptionKind) (mixed : Bool) :
    Option Text → List Text → Option Parsed
  | none, [] => some {}
  | some _, [] => none
  | some name, value :: rest =>
    (parseAfter kinds mixed none rest).map (Parsed.withOptions [⟨name, value⟩])
  | none, argument :: rest =>
    if argument = "--" then some { operands := rest }
    else if looksLikeOption argument then
      match cluster? kinds argument with
      | none => none
      | some cluster =>
        (parseAfter kinds mixed cluster.wanting rest).map (Parsed.withOptions cluster.given)
    else if mixed then (parseAfter kinds mixed none rest).map (Parsed.withOperand argument)
    else some { operands := argument :: rest }

def parse (kinds : List OptionKind) (mixed : Bool) (arguments : List Text) : Option Parsed :=
  parseAfter kinds mixed none arguments

end ApiClient.CommandLine
