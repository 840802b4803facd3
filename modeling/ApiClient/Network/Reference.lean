import ApiClient.Text.Split

/-! References to resources: texts that may leave out the start of an address. What they leave out
is taken from the address at which they stand, unless its scheme has no such references. -/

namespace ApiClient.Network

structure Reference where
  scheme : List Char := []
  authority : List Char := []
  path : List Char := []
  parameters : List Char := []
  query : List Char := []
  fragment : List Char := []
  deriving DecidableEq, Repr

namespace Reference

/-! ## Schemes

The schemes that have relative references, those whose addresses have an authority, and those with
parameters after the last segment of a path. No scheme at all counts among them. -/

def relativeSchemes : List String := [
  "", "ftp", "http", "gopher", "nntp", "imap", "wais", "file", "https", "shttp", "mms", "prospero",
  "rtsp", "rtsps", "rtspu", "sftp", "svn", "svn+ssh", "ws", "wss"]

def authoritySchemes : List String := [
  "", "ftp", "http", "gopher", "nntp", "telnet", "imap", "wais", "file", "mms", "https", "shttp",
  "snews", "prospero", "rtsp", "rtsps", "rtspu", "rsync", "svn", "svn+ssh", "sftp", "nfs", "git",
  "git+ssh", "ws", "wss"]

def parameterSchemes : List String := [
  "", "ftp", "hdl", "prospero", "http", "imap", "https", "shttp", "rtsp", "rtsps", "rtspu", "sip",
  "sips", "mms", "sftp", "tel"]

def isAmong (schemes : List String) (scheme : List Char) : Bool :=
  schemes.contains (String.ofList scheme)

/-! ## Parts -/

def isSchemeCharacter (c : Char) : Bool :=
  c.isAlphanum || c == '+' || c == '-' || c == '.'

def isScheme : List Char → Bool
  | c :: rest => c.isAlpha && rest.all isSchemeCharacter
  | [] => false

/-- The scheme in lower case, and the rest. A text that starts with a colon has none. -/
def cutScheme (text : List Char) : List Char × List Char :=
  match Text.cut (· == ':') text with
  | (scheme, _ :: rest) => if isScheme scheme then (scheme.map Char.toLower, rest) else ([], text)
  | (_, []) => ([], text)

/-- The authority after two slashes, and the rest. -/
def cutAuthority : List Char → List Char × List Char
  | '/' :: '/' :: text => Text.cut (fun c => c == '/' || c == '?' || c == '#') text
  | text => ([], text)

/-- A path without the parameters that follow its last segment, and these. -/
def cutParameters (path : List Char) : List Char × List Char :=
  let segment := Text.afterLast '/' path
  let (name, parameters) := Text.cut (· == ';') segment
  (path.take (path.length - segment.length) ++ name, parameters.drop 1)

example : cutParameters "/a;b/c;d;e".toList = ("/a;b/c".toList, "d;e".toList) := by decide

/-- The parts of a text that has some scheme if it gives no other. -/
def ofText (scheme text : List Char) : Reference :=
  let (own, rest) := cutScheme text
  let scheme := if own.isEmpty then scheme else own
  let (authority, rest) := cutAuthority rest
  let (rest, fragment) := Text.cut (· == '#') rest
  let (path, query) := Text.cut (· == '?') rest
  let (path, parameters) :=
    if isAmong parameterSchemes scheme then cutParameters path else (path, [])
  { scheme, authority, path, parameters, query := query.drop 1, fragment := fragment.drop 1 }

/-- A part that is not empty, after its mark. -/
def marked (mark : Char) (part : List Char) : List Char :=
  if part.isEmpty then [] else mark :: part

def text (reference : Reference) : List Char :=
  let path := reference.path ++ marked ';' reference.parameters
  let place :=
    if !reference.authority.isEmpty ||
        (!reference.scheme.isEmpty && isAmong authoritySchemes reference.scheme) ||
        path.take 2 = ['/', '/'] then
      '/' :: '/' :: reference.authority ++
        (if path.isEmpty ∨ path.head? = some '/' then path else '/' :: path)
    else path
  (if reference.scheme.isEmpty then [] else reference.scheme ++ [':']) ++ place ++
    marked '?' reference.query ++ marked '#' reference.fragment

/-! ## Paths -/

/-- The segments to which a path leads from another one. Empty segments in between are dropped. -/
def segmentsFrom (base path : List Char) : List (List Char) :=
  let above := Text.split (· == '/') base
  let above := if above.getLast? = some [] then above else above.dropLast
  match above ++ Text.split (· == '/') path with
  | first :: second :: others =>
    first :: (second :: others).dropLast.filter (· != []) ++ [(second :: others).getLast (by simp)]
  | segments => segments

/-- Segments without single and double dots. A double dot takes the segment before it along. -/
def withoutDots (segments : List (List Char)) : List (List Char) :=
  let kept := segments.foldl (fun kept segment =>
    if segment = ['.', '.'] then kept.dropLast
    else if segment = ['.'] then kept
    else kept ++ [segment]) []
  let endsInDots := segments.getLast? == some ['.'] || segments.getLast? == some ['.', '.']
  if endsInDots then kept ++ [[]] else kept

def joinedPath (base path : List Char) : List Char :=
  let segments :=
    if path.head? = some '/' then Text.split (· == '/') path else segmentsFrom base path
  match Text.unsplit '/' (withoutDots segments) with
  | [] => ['/']
  | path => path

example : joinedPath "/a/b".toList "../c/.".toList = "/c/".toList := by decide

/-! ## Resolution -/

/-- A reference whose scheme is that of the address, seen from there. -/
def within (base reference : Reference) : Reference :=
  let inAuthority := isAmong authoritySchemes reference.scheme
  if inAuthority && !reference.authority.isEmpty then reference
  else
    let authority := if inAuthority then base.authority else reference.authority
    if reference.path.isEmpty && reference.parameters.isEmpty then
      { reference with
        authority
        path := base.path
        parameters := base.parameters
        query := if reference.query.isEmpty then base.query else reference.query }
    else { reference with authority, path := joinedPath base.path reference.path }

/-- The text of a reference seen from an address. -/
def resolved (base reference : List Char) : List Char :=
  if base.isEmpty then reference
  else if reference.isEmpty then base
  else
    let place := ofText [] base
    let target := ofText place.scheme reference
    if target.scheme ≠ place.scheme ∨ !isAmong relativeSchemes target.scheme then reference
    else (place.within target).text

end Reference

end ApiClient.Network
