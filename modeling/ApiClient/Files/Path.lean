import ApiClient.Text.Line
import ApiClient.Text.Split

/-! Paths with slashes between their segments. Empty segments and single dots are dropped when a
path is read; double dots are kept, since only the files themselves tell where they lead. -/

namespace ApiClient

namespace Path

/-- What a path starts from. A path that starts with exactly two slashes keeps both. -/
inductive Root where
  | none
  | single
  | double
  deriving DecidableEq, Repr

def Root.text : Root → Text
  | .none => ""
  | .single => "/"
  | .double => "//"

def Root.ofText : Text → Root
  | .char '/' :: .char '/' :: .char '/' :: _ => .single
  | .char '/' :: .char '/' :: _ => .double
  | .char '/' :: _ => .single
  | _ => .none

end Path

structure Path where
  root : Path.Root := .none
  segments : List Text := []
  deriving DecidableEq, Repr

namespace Path

def isSegment (part : Text) : Bool :=
  part != [] && part != "."

def segmentsOf (text : Text) : List Text :=
  (Text.split (· == CodePoint.char '/') text).filter isSegment

def ofText (text : Text) : Path :=
  ⟨Root.ofText text, segmentsOf text⟩

def isAbsolute (path : Path) : Bool :=
  path.root != .none

/-- A path is written as it was read; one without root and segments is a dot. -/
def text (path : Path) : Text :=
  match path.root, path.segments with
  | .none, [] => "."
  | root, segments => root.text ++ joined "/" segments

example : (ofText "./a//b/.").text = "a/b" := by decide

example : (ofText "//a/../b").text = "//a/../b" := by decide

/-- A path seen from another one. -/
def join (base path : Path) : Path :=
  if path.isAbsolute then path else ⟨base.root, base.segments ++ path.segments⟩

def parent (path : Path) : Path :=
  { path with segments := path.segments.dropLast }

/-! ## Suffixes

The suffix of a name is what follows its last dot, with the dot, unless that dot is the first or the
last character. -/

def splitSuffix (name : Text) : Text × Text :=
  let suffix := Text.afterLast (.char '.') name
  let stem := name.take (name.length - suffix.length - 1)
  if name.length ≤ suffix.length + 1 ∨ suffix = [] then (name, []) else (stem, "." ++ suffix)

example : splitSuffix "a.b.ts" = (("a.b" : Text), (".ts" : Text)) := by decide

example : splitSuffix ".rc" = ((".rc" : Text), ([] : Text)) := by decide

def suffix (path : Path) : Text :=
  match path.segments.getLast? with
  | none => ""
  | some name => (splitSuffix name).2

/-- A path without the suffix of its last segment, which may be a dot then. There is none for a path
without segments. -/
def withoutSuffix? (path : Path) : Option Path :=
  path.segments.getLast?.map fun name =>
    { path with
      segments := path.segments.dropLast ++ [(splitSuffix name).1] }

/-! ## Places

A place is given by the segments that lead to it from the root. -/

/-- The segment that leads out of a directory. -/
def upward : Text := ".."

/-- One step from a place. A dot stays there; a double dot leads back, but not above the root. -/
def stepFrom (place : List Text) (segment : Text) : List Text :=
  if segment = "." then place
  else if segment = upward then place.dropLast
  else place ++ [segment]

/-- The place of a path when double dots are taken for the segment before them. -/
def place (directory : List Text) (path : Path) : List Text :=
  path.segments.foldl stepFrom (if path.isAbsolute then [] else directory)

example : place ["work"] (ofText "../../a/../b") = [("b" : Text)] := by decide

/-- The steps from one place to another: up to where they part, and down from there. -/
def between : List Text → List Text → List Text
  | start :: above, goal :: below =>
    if start = goal then between above below
    else (start :: above).map (fun _ => upward) ++ goal :: below
  | start, goal => start.map (fun _ => upward) ++ goal

example : between ["a", "b"] ["a", "c", "d"] = [(".." : Text), "c", "d"] := by decide

end Path

end ApiClient
