import ApiClient.Files.Path
import ApiClient.Text.Quoted
import ApiClient.Text.Utf8

/-! Files and directories by their places. Paths are followed one segment after the other, so a
double dot leads out of a directory only if that directory is there. -/

namespace ApiClient

/-! ## Refusals -/

inductive Refusal where
  | absent
  | present
  | notDirectory
  | isDirectory
  | nameTooLong
  deriving DecidableEq, Repr

def Refusal.number : Refusal → Nat
  | .absent => 2
  | .present => 17
  | .notDirectory => 20
  | .isDirectory => 21
  | .nameTooLong => 36

def Refusal.text : Refusal → Text
  | .absent => "No such file or directory"
  | .present => "File exists"
  | .notDirectory => "Not a directory"
  | .isDirectory => "Is a directory"
  | .nameTooLong => "File name too long"

/-- Why a path could not be used. A path with a null character, or without an encoding, is never
looked at. -/
inductive AccessFault where
  | refused (reason : Refusal) (path : Text)
  | unencodable (fault : Text.Utf8.Unencodable)
  | nullCharacter
  deriving DecidableEq, Repr

def AccessFault.message : AccessFault → Text
  | .refused reason path =>
    "[Errno " ++ Text.ofNat reason.number ++ "] " ++ reason.text ++ ": " ++ shown path
  | .unencodable fault => fault.message
  | .nullCharacter => "embedded null byte"

/-! ## Names -/

/-- What keeps a text from being the name of a file. -/
def nameFault? (name : Text) : Option AccessFault :=
  match Text.Utf8.unencodable? name with
  | some fault => some (.unencodable fault)
  | none => if name.contains '\x00' then some .nullCharacter else none

/-! ## Trees -/

inductive FileEntry where
  | file (content : List UInt8)
  | directory
  deriving DecidableEq, Repr

/-- The entries below the root, each at its place, and the place from which relative paths start. -/
structure FileTree where
  home : List Text := []
  entries : List (List Text × FileEntry) := []
  deriving DecidableEq, Repr

namespace FileTree

def findEntry (place : List Text) : List (List Text × FileEntry) → Option FileEntry
  | [] => none
  | (other, entry) :: rest => if other = place then some entry else findEntry place rest

/-- The root is a directory that is always there. -/
def entryAt (tree : FileTree) : List Text → Option FileEntry
  | [] => some .directory
  | place => findEntry place tree.entries

def putEntry (place : List Text) (entry : FileEntry) :
    List (List Text × FileEntry) → List (List Text × FileEntry)
  | [] => [(place, entry)]
  | (other, old) :: rest =>
    if other = place then (place, entry) :: rest else (other, old) :: putEntry place entry rest

def put (tree : FileTree) (place : List Text) (entry : FileEntry) : FileTree :=
  { tree with entries := putEntry place entry tree.entries }

def remove (tree : FileTree) (place : List Text) : FileTree :=
  { tree with entries := tree.entries.filter (·.1 != place) }

/-! ## Following paths -/

/-- No segment is longer than this, in octets. -/
def greatestNameSize : Nat := 255

/-- No path is as long as this, in octets. -/
def pathSizeLimit : Nat := 4096

/-- The place to which segments lead. It need not be taken, but everything on the way to it must be
a directory. -/
def follow (tree : FileTree) (place : List Text) : List Text → Except Refusal (List Text)
  | [] => .ok place
  | segment :: rest =>
    match tree.entryAt place with
    | none => .error .absent
    | some (.file _) => .error .notDirectory
    | some .directory =>
      if segment = Path.upward then follow tree place.dropLast rest
      else if greatestNameSize < Text.Utf8.size segment then .error .nameTooLong
      else follow tree (place ++ [segment]) rest

def locate (tree : FileTree) (path : Path) : Except Refusal (List Text) :=
  if pathSizeLimit ≤ Text.Utf8.size path.text then .error .nameTooLong
  else tree.follow (if path.isAbsolute then [] else tree.home) path.segments

/-- A failed use of a path names the path. -/
def attempt (path : Path) (use : Except Refusal α) : Except AccessFault α :=
  match nameFault? path.text with
  | some fault => .error fault
  | none => use.mapError (.refused · path.text)

/-! ## Access -/

def entryUnder (tree : FileTree) (path : Path) : Except Refusal (Option FileEntry) := do
  return tree.entryAt (← tree.locate path)

/-- What a path leads to, if it leads anywhere. Only an overlong name makes this fail. -/
def entry? (tree : FileTree) (path : Path) : Except AccessFault (Option FileEntry) :=
  match nameFault? path.text, tree.entryUnder path with
  | some _, _ => .ok none
  | none, .ok entry => .ok entry
  | none, .error .nameTooLong => .error (.refused .nameTooLong path.text)
  | none, .error _ => .ok none

def contains (tree : FileTree) (path : Path) : Except AccessFault Bool :=
  Option.isSome <$> tree.entry? path

/-- The names in a directory. -/
def listing (tree : FileTree) (path : Path) : List Text :=
  match tree.locate path with
  | .error _ => []
  | .ok place =>
    tree.entries.filterMap fun (other, _) =>
      if other.dropLast = place then other.getLast? else none

def read (tree : FileTree) (path : Path) : Except AccessFault (List UInt8) :=
  attempt path do
    match ← tree.entryUnder path with
    | none => throw .absent
    | some .directory => throw .isDirectory
    | some (.file content) => return content

def write (tree : FileTree) (path : Path) (content : List UInt8) : Except AccessFault FileTree :=
  attempt path do
    let place ← tree.locate path
    match tree.entryAt place with
    | some .directory => throw .isDirectory
    | _ => return tree.put place (.file content)

def makeDirectory (tree : FileTree) (path : Path) : Except AccessFault FileTree :=
  attempt path do
    let place ← tree.locate path
    match tree.entryAt place with
    | some _ => throw .present
    | none => return tree.put place .directory

/-- Make one directory. It is no fault if the directory is there already. -/
def ensureDirectory (tree : FileTree) (path : Path) : FileTree × Except AccessFault Unit :=
  match tree.makeDirectory path with
  | .ok tree => (tree, .ok ())
  | .error (.refused reason path') =>
    match tree.entry? path with
    | .ok (some .directory) => (tree, .ok ())
    | .ok _ => (tree, .error (.refused reason path'))
    | .error fault => (tree, .error fault)
  | .error fault => (tree, .error fault)

/-- Make a directory, given by its segments from the last one on, and before it the directories
above it as far as they are absent. What was made stays made when a later step fails. -/
def ensureDirectories (tree : FileTree) (root : Path.Root) :
    List Text → FileTree × Except AccessFault Unit
  | [] => tree.ensureDirectory ⟨root, []⟩
  | name :: above =>
    let path : Path := ⟨root, (name :: above).reverse⟩
    match tree.makeDirectory path with
    | .error (.refused .absent _) =>
      match tree.ensureDirectories root above with
      | (tree, .ok ()) => tree.ensureDirectory path
      | failed => failed
    | _ => tree.ensureDirectory path

def makeDirectories (tree : FileTree) (path : Path) : FileTree × Except AccessFault Unit :=
  tree.ensureDirectories path.root path.segments.reverse

end FileTree

end ApiClient
