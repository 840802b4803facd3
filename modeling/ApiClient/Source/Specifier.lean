import ApiClient.Files.Path
import ApiClient.Text.Quoted

/-! Import specifiers, by which one generated module names another. -/

namespace ApiClient

/-- A file name that names nothing, as a path. -/
structure NamelessPath where
  path : Path
  deriving DecidableEq, Repr

def NamelessPath.message (nameless : NamelessPath) : Text :=
  "PurePosixPath(" ++ shown nameless.path.text ++ ") has an empty name"

/-- The part of a text before the last slash. -/
def beforeLastSlash (text : Text) : Text :=
  text.take (text.length - (Text.afterLast (.char '/') text).length)

/-- The specifier of a module given by its file name, as written in another module. Both names are
seen from a working directory. A specifier never looks like the name of a package. -/
def moduleSpecifier (directory : List Text) (name : Text) (importer : Text) :
    Except NamelessPath Text :=
  let path := Path.ofText name
  match path.withoutSuffix? with
  | none => .error ⟨path⟩
  | some target =>
    let start := (Path.ofText (beforeLastSlash importer)).place directory
    let steps := Path.between start (target.place directory)
    let relative := if steps.isEmpty then (".": Text) else joined "/" steps
    if Text.ofString "../" |>.isPrefixOf relative then .ok relative else .ok ("./" ++ relative)

end ApiClient
