import ApiClient.Compression.Frame
import ApiClient.Network.ContentType
import ApiClient.Text.Quoted

/-! Answers from the web. -/

namespace ApiClient.Network

structure Response where
  status : Nat := 200
  headers : List (String × String) := []
  body : List UInt8 := []
  deriving DecidableEq, Repr

namespace Response

/-! ## Headers -/

/-- The value of a header, whose name may be in any letter case. Several values make one list. -/
def header? (response : Response) (name : String) : Option String :=
  match response.headers.filter fun (other, _) => other.map Char.toLower == name with
  | [] => none
  | values => some (", ".intercalate (values.map (·.2)))

def contentType (response : Response) : String :=
  (response.header? "content-type").getD ""

/-- Characters in a row that no header can hold: the first of them, its position and how many there
are. -/
structure Misspelling where
  character : Char
  position : Nat
  span : Nat
  deriving DecidableEq, Repr

/-- The first part of a text that is not ASCII. -/
def misspelling? (text : List Char) : Option Misspelling :=
  let isAscii := fun c : Char => c.toNat < 0x80
  match text.dropWhile isAscii with
  | [] => none
  | c :: rest => some ⟨c, (text.takeWhile isAscii).length, (rest.takeWhile (!isAscii ·)).length + 1⟩

example : misspelling? "aéeé".toList = some ⟨'é', 1, 1⟩ := by decide

/-- The first thing in the names and values of the headers that none can hold. -/
def headerMisspelling? (response : Response) : Option Misspelling :=
  response.headers.findSome? fun (name, value) =>
    misspelling? name.toList <|> misspelling? value.toList

def Misspelling.message (found : Misspelling) : String :=
  let place :=
    if found.span = 1 then
      " '" ++ String.ofList (Text.Shown.numbered found.character.toNat) ++ "' in position " ++
        toString found.position
    else
      "s in position " ++ toString found.position ++ "-" ++
        toString (found.position + found.span - 1)
  "'ascii' codec can't encode character" ++ place ++ ": ordinal not in range(128)"

/-! ## Status -/

def isSuccess (response : Response) : Bool :=
  200 ≤ response.status && response.status < 300

/-- Where a response says that the resource is to be found instead. -/
def redirection? (response : Response) : Option String :=
  if [301, 302, 303, 307, 308].contains response.status then response.header? "location"
  else none

/-- What a status means, where that is known. -/
def reason : Nat → String
  | 100 => "Continue"
  | 101 => "Switching Protocols"
  | 102 => "Processing"
  | 103 => "Early Hints"
  | 300 => "Multiple Choices"
  | 301 => "Moved Permanently"
  | 302 => "Found"
  | 303 => "See Other"
  | 304 => "Not Modified"
  | 305 => "Use Proxy"
  | 307 => "Temporary Redirect"
  | 308 => "Permanent Redirect"
  | 400 => "Bad Request"
  | 401 => "Unauthorized"
  | 402 => "Payment Required"
  | 403 => "Forbidden"
  | 404 => "Not Found"
  | 405 => "Method Not Allowed"
  | 406 => "Not Acceptable"
  | 407 => "Proxy Authentication Required"
  | 408 => "Request Timeout"
  | 409 => "Conflict"
  | 410 => "Gone"
  | 411 => "Length Required"
  | 412 => "Precondition Failed"
  | 413 => "Request Entity Too Large"
  | 414 => "Request-URI Too Long"
  | 415 => "Unsupported Media Type"
  | 416 => "Requested Range Not Satisfiable"
  | 417 => "Expectation Failed"
  | 418 => "I'm a teapot"
  | 421 => "Misdirected Request"
  | 422 => "Unprocessable Entity"
  | 423 => "Locked"
  | 424 => "Failed Dependency"
  | 425 => "Too Early"
  | 426 => "Upgrade Required"
  | 428 => "Precondition Required"
  | 429 => "Too Many Requests"
  | 431 => "Request Header Fields Too Large"
  | 451 => "Unavailable For Legal Reasons"
  | 500 => "Internal Server Error"
  | 501 => "Not Implemented"
  | 502 => "Bad Gateway"
  | 503 => "Service Unavailable"
  | 504 => "Gateway Timeout"
  | 505 => "HTTP Version Not Supported"
  | 506 => "Variant Also Negotiates"
  | 507 => "Insufficient Storage"
  | 508 => "Loop Detected"
  | 510 => "Not Extended"
  | 511 => "Network Authentication Required"
  | _ => ""

/-- What kind of answer a status other than a success is. -/
def kind (status : Nat) : String :=
  match status / 100 with
  | 1 => "Informational response"
  | 3 => "Redirect response"
  | 4 => "Client error"
  | 5 => "Server error"
  | _ => "Invalid status code"

/-! ## Body -/

/-- How a body can be compressed. -/
inductive Coding where
  | file
  | stream
  deriving DecidableEq, Repr

def Coding.named? (name : List Char) : Option Coding :=
  match String.ofList ((Text.trim Text.isBlank name).map Char.toLower) with
  | "gzip" => some .file
  | "deflate" => some .stream
  | _ => none

def Coding.decode : Coding → List UInt8 → Except Compression.Fault (List UInt8)
  | .file => Compression.ofFile
  | .stream => Compression.ofStream

/-- The codings of the body, the outermost one last. Unknown names are passed over. -/
def codings (response : Response) : List Coding :=
  (Text.split (· == ',') ((response.header? "content-encoding").getD "").toList).filterMap
    Coding.named?

/-- The response with its body as it was before it was compressed. -/
def decoded (response : Response) : Except Compression.Fault Response := do
  let body ← response.codings.foldrM (fun coding octets => coding.decode octets) response.body
  return { response with body }

/-- The body as text. -/
def text (response : Response) : Except ContentType.Fault (List Char) :=
  ContentType.decode response.contentType.toList response.body

end Response

end ApiClient.Network
