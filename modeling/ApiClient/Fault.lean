import ApiClient.Api.Collection
import ApiClient.Data.Toml.Scalar
import ApiClient.Data.Yaml.Fault
import ApiClient.Files.Tree
import ApiClient.Network.Fault
import ApiClient.Source.Specifier

/-! The ways in which a run can fail. -/

namespace ApiClient

/-! ## Causes -/

/-- A failure of something that the tool relies on: files, formats, the network. -/
inductive Cause where
  | access (fault : AccessFault)
  | noFile (path : Text)
  | encoding (fault : Text.Utf8.Fault)
  | unencodable (fault : Text.Utf8.Unencodable)
  | unknownEncoding (name : Text)
  | notTextEncoding (name : Text)
  | otherEncoding (fault : Text.CharsetFault)
  | json (failure : Json.Failure)
  | yaml (fault : Yaml.Fault)
  | toml (fault : Toml.Fault)
  | exchange (fault : Network.Fault)
  | system (text : Text)
  | invalid (text : Text)
  | missingKey (key : Text)
  | endless
  deriving DecidableEq, Repr

def Cause.message : Cause → Option Text
  | .access fault => some fault.message
  | .noFile path => some ("File not found: " ++ path)
  | .encoding fault => some fault.message
  | .unencodable fault => some fault.message
  | .unknownEncoding name => some ("unknown encoding: " ++ name)
  | .notTextEncoding name =>
    some ("'" ++ name ++ "' is not a text encoding; use codecs.open() to handle arbitrary codecs")
  | .otherEncoding fault => some fault.message
  | .json failure => some failure.message
  | .yaml fault => fault.message
  | .toml .grammar => none
  | .toml (.tooManyDigits count) => some (Json.digitLimitMessage count)
  | .exchange fault => some fault.message
  | .system text => some text
  | .invalid text => some text
  | .missingKey key => some (shown key)
  | .endless => some "maximum recursion depth exceeded"

/-! ## Faults -/

/-- A failure that the tool reports as its own. -/
inductive Fault where
  | general (message : Text)
  | document (message : Text)
  | loading (source : Text) (cause : Option Cause)
  | validation (source : Text) (errors : List Text)
  | reference (pointer : Text) (reason : Option Text)
  | generation (message : Text) (context : Option Text) (cause : Option Cause)
  | operation (path method reason : Text) (operationId : Option Text)
  | configuration (message : Text) (configPath field : Option Text)
  | output (path : Text) (cause : Option Cause)
  deriving DecidableEq, Repr

namespace Fault

/-- A text, made from a part that is there and not empty. -/
def whenGiven (part : Option Text) (text : Text → Text) : Text :=
  match part with
  | none | some [] => ""
  | some part => text part

def contextText (context : Option Text) : Text :=
  whenGiven context fun context => " (while generating " ++ context ++ ")"

def errorsText (errors : List Text) : Text :=
  if errors.isEmpty then [] else ": " ++ joined "; " errors

def causeText (cause : Option Cause) : Text :=
  match cause.bind Cause.message with
  | none => []
  | some text => ": " ++ text

def message : Fault → Text
  | .general message | .document message => message
  | .loading source cause => "Failed to load schema from '" ++ source ++ "'" ++ causeText cause
  | .validation source errors =>
    "Schema validation failed for '" ++ source ++ "'" ++ errorsText errors
  | .reference pointer reason =>
    "Failed to resolve reference '" ++ pointer ++ "'" ++ whenGiven reason (": " ++ ·)
  | .generation message context cause =>
    message ++ contextText context ++ causeText cause
  | .operation path method reason operationId =>
    "Invalid operation " ++ Text.uppercased method ++ " " ++ path ++ ": " ++ reason ++
      contextText operationId
  | .configuration message configPath field =>
    message ++ whenGiven configPath (fun path => " in '" ++ path ++ "'") ++
      whenGiven field (fun field => " (field: " ++ field ++ ")")
  | .output path cause => "Failed to write output to '" ++ path ++ "'" ++ causeText cause

end Fault

/-- Kinds of faults. -/
inductive Category where
  | general
  | document
  | loading
  | validation
  | reference
  | generation
  | operation
  | configuration
  | output
  deriving DecidableEq, Repr

def Fault.category : Fault → Category
  | .general _ => .general
  | .document _ => .document
  | .loading _ _ => .loading
  | .validation _ _ => .validation
  | .reference _ _ => .reference
  | .generation _ _ _ => .generation
  | .operation _ _ _ _ => .operation
  | .configuration _ _ _ => .configuration
  | .output _ _ => .output

/-- A category and the wider ones in which it lies, the widest one last. -/
def Category.lineage : Category → List Category
  | .general => [.general]
  | .document => [.document, .general]
  | .loading => [.loading, .document, .general]
  | .validation => [.validation, .document, .general]
  | .reference => [.reference, .document, .general]
  | .generation => [.generation, .general]
  | .operation => [.operation, .generation, .general]
  | .configuration => [.configuration, .general]
  | .output => [.output, .general]

/-! ## Failures -/

/-- Why data holds no settings at all. The first two speak of the data in which settings are given
by their names, the next three of the data in which tools have theirs, and the others of what is
said there on how to search for settings. -/
inductive Misfit where
  | notMapping (kind : Text)
  | keyNotText
  | notSearchable (kind : Text)
  | listOfTools
  | textOfTools
  | notReducible (kind : Text)
  | notSized (kind : Text)
  | notIterable (kind : Text)
  | notPath (kind : Text)
  | notEncoding (kind : Text)
  | notArgument (kind : Text)
  | notSource (kind : Text)
  | ownName
  deriving DecidableEq, Repr

def Misfit.message : Misfit → Text
  | .notMapping kind =>
    "apistub.config.DocumentConfig() argument after ** must be a mapping, not " ++ kind
  | .keyNotText => "keywords must be strings"
  | .notSearchable kind => "argument of type '" ++ kind ++ "' is not iterable"
  | .listOfTools => "list indices must be integers or slices, not str"
  | .textOfTools => "string indices must be integers, not 'str'"
  | .notReducible kind => "unsupported operand type(s) for -: '" ++ kind ++ "' and 'int'"
  | .notSized kind => "object of type '" ++ kind ++ "' has no len()"
  | .notIterable kind => "'" ++ kind ++ "' object is not iterable"
  | .notPath kind => "expected str, bytes or os.PathLike object, not " ++ kind
  | .notEncoding kind => "open() argument 'encoding' must be str or None, not " ++ kind
  | .notArgument kind => "'" ++ kind ++ "' object is not subscriptable"
  | .notSource kind => "'" ++ kind ++ "' object is not callable"
  | .ownName => "BaseSettings.__init__() got multiple values for argument '__pydantic_self__'"

/-- Why settings cannot be searched for as they are asked to be. -/
inductive SearchFault where
  | unreadable (setting source : Text)
  | secretsNotDirectory
  | notArguments (kind : Text)
  | badArguments
  deriving DecidableEq, Repr

def SearchFault.message : SearchFault → Text
  | .unreadable setting source =>
    "error getting value for field \"" ++ setting ++ "\" from source \"" ++ source ++ "\""
  | .secretsNotDirectory => "secrets_dir must reference a directory, not a file"
  | .notArguments kind =>
    "cli_parse_args must be a list or tuple of strings, received <class '" ++ kind ++ "'>"
  | .badArguments => "2"

/-- How a run can end other than well: with a fault of its own, with a cause that no fault
accounts for, or with data that does not fit. -/
inductive Failure where
  | fault (fault : Fault)
  | cause (cause : Cause)
  | nameless (path : NamelessPath)
  | unwritable (reason : Unwritable)
  | misfit (reason : Misfit)
  | search (fault : SearchFault)
  | problems (problems : List Text)
  deriving DecidableEq, Repr

def Failure.message : Failure → Option Text
  | .fault own => some own.message
  | .cause foreign => foreign.message
  | .nameless path => some path.message
  | .unwritable reason => some reason.message
  | .misfit reason => some reason.message
  | .search found => some found.message
  | .problems found => some (joined "; " found)

/-- What a failed collection of endpoints is to a run. -/
def CollectionFault.failure : CollectionFault → Failure
  | .operation path method fault operationId =>
    .fault (.operation path method fault.message operationId)
  | .reference broken => .fault (.reference broken.pointer (some broken.fault.message))
  | .unwritable reason => .unwritable reason

end ApiClient
