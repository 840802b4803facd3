import ApiClient.Network.Url

/-! Which sources are looked for on the web, and not among the files. -/

namespace ApiClient.Network

/-- Controls and spaces before an address do not count, nor do tabs and line breaks in it. -/
def withoutLayout (text : List Char) : List Char :=
  (text.dropWhile (·.toNat ≤ 0x20)).filter fun c => c != '\t' && c != '\r' && c != '\n'

/-- An address of a version yet to come: the letter v, the version, a dot and some text. -/
def isFutureAddress : List Char → Bool
  | 'v' :: text =>
    let (version, rest) := Text.cut (!isHexadecimal ·) text
    version != [] && rest.head? == some '.' && rest.drop 1 != []
  | _ => false

def isEnclosable (address : List Char) : Bool :=
  if address.head? = some 'v' then isFutureAddress address else isVersion6 address

/-- The host and the port after the last at sign. -/
def placeOf (authority : List Char) : List Char :=
  if authority.contains '@' then Text.afterLast '@' authority else authority

/-- An authority with brackets has a host that is an address, alone in brackets before a port, or
without any if the brackets stand elsewhere. -/
def areBracketsFine (authority : List Char) : Bool :=
  match authority.contains '[', authority.contains ']' with
  | false, false => true
  | true, true =>
    match Text.cut (· == '[') (placeOf authority) with
    | (before, _ :: bracketed) =>
      let (address, rest) := Text.cut (· == ']') bracketed
      before.isEmpty && (rest.drop 1).head?.all (· == ':') && isEnclosable address
    | (place, []) => isEnclosable (place.takeWhile (· != ':'))
  | _, _ => false

/-- The characters that structure an address. -/
def delimiters : List Char := ['/', '?', '#', '@', ':']

/-- Whether some character stands for a delimiter without being one. -/
def hidesDelimiter (authority : List Char) : Bool :=
  ((authority.filter (!delimiters.contains ·)).flatMap Text.decompose).any delimiters.contains

def isAuthorityFine (authority : List Char) : Bool :=
  authority != [] && areBracketsFine authority && !hidesDelimiter authority

def webSchemes : List String := ["http", "https"]

/-- Half of a surrogate pair means as little in an address as any other strange character. -/
def characterOf : CodePoint → Char
  | .char c => c
  | .surrogate _ => '\ufffd'

/-- Whether a source is an address on the web, with an authority. -/
def isWebAddress (source : Text) : Bool :=
  let (scheme, rest) := Reference.cutScheme (withoutLayout (source.map characterOf))
  webSchemes.contains (String.ofList scheme) && isAuthorityFine (Reference.cutAuthority rest).1

end ApiClient.Network
