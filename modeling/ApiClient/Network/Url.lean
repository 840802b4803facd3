import ApiClient.Network.Address
import ApiClient.Network.HostName
import ApiClient.Network.Reference
import ApiClient.Text.Line
import ApiClient.Text.Quoted

/-! Addresses of resources. An address is read into its parts, and each part is brought into one
form: characters that a part must not hold are escaped, the host and the scheme are in lower case,
dots are taken out of the path, and a port that goes without saying is dropped. -/

namespace ApiClient.Network

structure Url where
  scheme : String := ""
  user : String := ""
  host : String := ""
  port : Option Int := none
  path : String := ""
  query : Option String := none
  fragment : Option String := none
  deriving DecidableEq, Repr

namespace Url

/-! ## Faults -/

inductive Fault where
  | tooLong
  | unprintable (c : Char) (position : Nat)
  | unprintableFragment (c : Char) (position : Nat)
  | version4 (host : String)
  | version6 (host : String)
  | hostName (host : String)
  | port (text : String)
  | relativePath
  | doubleSlash
  | leadingColon
  deriving DecidableEq, Repr

def positionText (c : Char) (position : Nat) : Text :=
  shown [.char c] ++ " at position " ++ Text.ofNat position ++ "."

def Fault.message : Fault → Text
  | .tooLong => "URL too long"
  | .unprintable c position =>
    "Invalid non-printable ASCII character in URL, " ++ positionText c position
  | .unprintableFragment c position =>
    "Invalid non-printable ASCII character in URL fragment component, " ++ positionText c position
  | .version4 host => "Invalid IPv4 address: " ++ shown host
  | .version6 host => "Invalid IPv6 address: " ++ shown host
  | .hostName host => "Invalid IDNA hostname: " ++ shown host
  | .port text => "Invalid port: " ++ shown text
  | .relativePath => "For absolute URLs, path must be empty or begin with '/'"
  | .doubleSlash => "Relative URLs cannot have a path starting with '//'"
  | .leadingColon => "Relative URLs cannot have a path starting with ':'"

/-! ## Text -/

/-- The user, the host and the port. A host with colons is an address in brackets. -/
def authority (url : Url) : String :=
  (if url.user.isEmpty then "" else url.user ++ "@") ++
    (if url.host.contains ':' then "[" ++ url.host ++ "]" else url.host) ++
    (match url.port with
    | some port => ":" ++ toString port
    | none => "")

def text (url : Url) : String :=
  (if url.scheme.isEmpty then "" else url.scheme ++ ":") ++
    (if url.authority.isEmpty then "" else "//" ++ url.authority) ++ url.path ++
    ((url.query.map ("?" ++ ·)).getD "") ++ ((url.fragment.map ("#" ++ ·)).getD "")

/-! ## Escapes -/

def upperHexDigit (value : Nat) : Char :=
  Char.ofNat (if value < 10 then 0x30 + value else 0x37 + value)

def escapeOctet (octet : UInt8) : List Char :=
  ['%', upperHexDigit (octet.toNat / 16), upperHexDigit (octet.toNat % 16)]

/-- Escape the characters that are not safe. Every other character stands for itself, a percent sign
too. -/
def escape (isSafe : Char → Bool) (text : List Char) : List Char :=
  text.flatMap fun c =>
    if isSafe c then [c] else (String.utf8EncodeChar c).flatMap escapeOctet

/-- The octets of a text, with those that it escapes in place of their escapes. -/
def unescapedOctets : List Char → List UInt8
  | '%' :: high :: low :: rest =>
    match Text.Numeral.digitIn? 16 high, Text.Numeral.digitIn? 16 low with
    | some high, some low => UInt8.ofNat (16 * high + low) :: unescapedOctets rest
    | _, _ => 0x25 :: unescapedOctets (high :: low :: rest)
  | c :: rest => String.utf8EncodeChar c ++ unescapedOctets rest
  | [] => []

def unescape (text : List Char) : List Char :=
  Text.Utf8.decodeLossy (unescapedOctets text)

/-- Visible ASCII characters are safe, apart from those that mean something at a place. -/
def isSafeExcept (excluded : String) (c : Char) : Bool :=
  0x20 < c.toNat && c.toNat < 0x7f && !excluded.contains c

def isSafeInFragment : Char → Bool :=
  isSafeExcept "\"<>\x60"

def isSafeInQuery : Char → Bool :=
  isSafeExcept "\"#<>"

def isSafeInPath : Char → Bool :=
  isSafeExcept "\"#<>?\x60\x7b\x7d"

def isSafeInUser : Char → Bool :=
  isSafeExcept "\"#<>?\x60\x7b\x7d/;=@[\\]^|"

def isSafeInHost : Char → Bool :=
  isSafeExcept "#/:<>?@[]^"

/-! ## Parts as they are written -/

/-- The scheme before the first colon, and the rest. The scheme may be empty. -/
def cutScheme (text : List Char) : List Char × List Char :=
  match Text.cut (· == ':') text with
  | (scheme, _ :: rest) =>
    if scheme = [] ∨ Reference.isScheme scheme then (scheme, rest) else ([], text)
  | (_, []) => ([], text)

/-- What follows the mark of an optional part. -/
def afterMark : List Char → Option (List Char)
  | [] => none
  | _ :: text => some text

structure Authority where
  user : List Char := []
  host : List Char := []
  port : List Char := []
  deriving DecidableEq, Repr

/-- The user stands before the last at sign. -/
def cutUser (text : List Char) : List Char × List Char :=
  if text.contains '@' then
    let host := Text.afterLast '@' text
    (text.take (text.length - host.length - 1), host)
  else ([], text)

/-- The host in brackets, which end at the last closing one. -/
def bracketed (text : List Char) : Option (List Char × List Char) :=
  if text.head? = some '[' ∧ text.contains ']' then
    let rest := Text.afterLast ']' text
    some (text.take (text.length - rest.length), rest)
  else none

def Authority.ofText (text : List Char) : Authority :=
  let (user, place) := cutUser text
  let (host, rest) := (bracketed place).getD (Text.cut (· == ':') place)
  { user, host, port := if rest.head? = some ':' then rest.drop 1 else rest }

example : Authority.ofText "a:b@h:80".toList = ⟨"a:b".toList, ['h'], "80".toList⟩ := by decide

/-! ## Parts in their form -/

def isBracketed (host : List Char) : Bool :=
  host.head? == some '[' && host.getLast? == some ']'

/-- A host that looks like an address must be one. -/
def readHost (host : List Char) : Except Fault String :=
  if isNumeric host then
    if isVersion4 host then .ok (String.ofList host) else .error (.version4 (String.ofList host))
  else if isBracketed host then
    let address := (host.drop 1).dropLast
    if isVersion6 address then .ok (String.ofList address)
    else .error (.version6 (String.ofList host))
  else if HostName.isAscii host then
    .ok (String.ofList (escape isSafeInHost (host.map Char.toLower)))
  else
    match HostName.encode host with
    | some name => .ok (String.ofList name)
    | none => .error (.hostName (String.ofList host))

/-- The ports that go without saying. -/
def defaultPorts : List (String × Int) :=
  [("ftp", 21), ("http", 80), ("https", 443), ("ws", 80), ("wss", 443)]

/-- No port has more digits than this. -/
def portDigitLimit : Nat := 4300

def readPort (scheme text : List Char) : Except Fault (Option Int) :=
  if text = [] then .ok none
  else
    match Text.Numeral.integer portDigitLimit 10 text with
    | .number port =>
      .ok (if defaultPorts.contains (String.ofList scheme, port) then none else some port)
    | _ => .error (.port (String.ofList text))

/-- Take single and double dots out of the segments of a path. A double dot takes the segment before
it along, if there is one besides the empty one at the start. -/
def withoutDots (segments : List (List Char)) : List (List Char) :=
  segments.foldl (fun kept segment =>
    if segment = ['.'] then kept
    else if segment = ['.', '.'] then if kept = [[]] then kept else kept.dropLast
    else kept ++ [segment]) []

example :
    Text.unsplit '/' (withoutDots (Text.split (· == '/') "/a/./b/../c".toList)) =
      "/a/c".toList := by
  decide

/-- The path of an address with an authority starts with a slash if it is not empty. One of an
address with neither an authority nor a scheme must not look as if it had them. -/
def checkPath (hasScheme hasAuthority : Bool) (path : List Char) : Except Fault Unit :=
  if hasAuthority then
    if path = [] ∨ path.head? = some '/' then .ok () else .error .relativePath
  else if hasScheme then .ok ()
  else if path.take 2 = ['/', '/'] then .error .doubleSlash
  else if path.head? = some ':' then .error .leadingColon
  else .ok ()

/-! ## Reading -/

/-- No address is longer than this. -/
def greatestLength : Nat := 65536

/-- The first control character, with its position. -/
def firstControl (position : Nat) : List Char → Option (Char × Nat)
  | [] => none
  | c :: rest =>
    if c.toNat < 0x20 ∨ c.toNat = 0x7f then some (c, position) else firstControl (position + 1) rest

def ofParts (scheme : List Char) (authority : Authority) (path : List Char)
    (query fragment : Option (List Char)) : Except Fault Url := do
  let host ← readHost authority.host
  let port ← readPort scheme authority.port
  let hasScheme := !scheme.isEmpty
  let hasAuthority := !authority.user.isEmpty || !host.isEmpty || port.isSome
  checkPath hasScheme hasAuthority path
  let path :=
    if hasScheme || hasAuthority then
      Text.unsplit '/' (withoutDots (Text.split (· == '/') path))
    else path
  return {
    scheme := String.ofList (scheme.map Char.toLower)
    user := String.ofList (escape isSafeInUser authority.user)
    host, port
    path := String.ofList (escape isSafeInPath path)
    query := query.map fun query => String.ofList (escape isSafeInQuery query)
    fragment := fragment.map fun fragment => String.ofList (escape isSafeInFragment fragment) }

def ofText (text : List Char) : Except Fault Url :=
  if greatestLength < text.length then .error .tooLong
  else
    match firstControl 0 text with
    | some (c, position) => .error (.unprintable c position)
    | none =>
      let (scheme, rest) := cutScheme text
      let (authority, rest) := Reference.cutAuthority rest
      let (path, rest) := Text.cut (fun c => c == '?' || c == '#') rest
      let (query, rest) := if rest.head? = some '?' then Text.cut (· == '#') rest else ([], rest)
      ofParts scheme (Authority.ofText authority) path (afterMark query) (afterMark rest)

def read (text : String) : Except Fault Url :=
  ofText text.toList

/-! ## Requests

An address that does not tell where to send a request is taken for a path on its own. -/

def isRelative (url : Url) : Bool :=
  url.scheme.isEmpty || url.host.isEmpty

def forRequest (url : Url) : Url :=
  if url.isRelative then
    { path := String.ofList ('/' :: url.path.toList.dropWhile (· == '/')), query := url.query }
  else url

/-! ## References -/

/-- A reference seen from an address. -/
def resolve (base reference : Url) : Except Fault Url :=
  ofText (Reference.resolved base.text.toList reference.text.toList)

/-! ## Other parts in place of those that are there -/

def withHost (host : String) (url : Url) : Except Fault Url :=
  let host := if host.contains ':' then "[" ++ host ++ "]" else host
  ofParts url.scheme.toList
    { user := url.user.toList
      host := host.toList
      port := ((url.port.map toString).getD "").toList }
    url.path.toList (url.query.map (·.toList)) (url.fragment.map (·.toList))

/-- The address with the fragment of another one, if it has none of its own. -/
def withFragmentOf (other url : Url) : Except Fault Url :=
  let carried := unescape (other.fragment.getD "").toList
  if carried = [] ∨ url.fragment.any (!·.isEmpty) then .ok url
  else
    match firstControl 0 carried with
    | some (c, position) => .error (.unprintableFragment c position)
    | none =>
      .ok { url with fragment := some (String.ofList (escape isSafeInFragment carried)) }

end Url

end ApiClient.Network
