import ApiClient.Network.Response
import ApiClient.Network.Url

/-! What keeps a document from being fetched. -/

namespace ApiClient.Network

/-- The ways in which an exchange with a server can break off. -/
inductive Disruption where
  | connection
  | reading
  | writing
  | closing
  | network
  | connectionTimeout
  | readingTimeout
  | writingTimeout
  | waitingTimeout
  | timeout
  | localProtocol
  | remoteProtocol
  | protocol
  | proxy
  | unsupportedProtocol
  | decoding
  | redirects
  | address
  | transport
  | request
  | exchange
  deriving DecidableEq, Repr

inductive Fault where
  | disrupted (kind : Disruption) (text : String)
  | badAddress (fault : Url.Fault)
  | badRedirection (fault : Url.Fault)
  | tooManyRedirections
  | noScheme (url : String)
  | badHeader (found : Response.Misspelling)
  | notText (fault : ContentType.Fault)
  | status (code : Nat) (url : String) (redirection : Option String)
  deriving DecidableEq, Repr

/-- Where more is said about a status. -/
def statusReference (code : Nat) : String :=
  "For more information check: https://developer.mozilla.org/en-US/docs/Web/HTTP/Status/" ++
    toString code

def Fault.message : Fault → Text
  | .disrupted _ text => text
  | .badAddress fault => fault.message
  | .badRedirection fault => "Invalid URL in location header: " ++ fault.message ++ "."
  | .noScheme url => "unknown url type: " ++ shown url
  | .badHeader found => found.message
  | .notText fault => fault.message
  | .tooManyRedirections => "Exceeded maximum allowed redirects."
  | .status code url redirection =>
    Response.kind code ++ " '" ++ Text.ofNat code ++ " " ++ Response.reason code ++ "' for url '" ++
      url ++ "'\n" ++
      ((redirection.map fun place => "Redirect location: '" ++ place ++ "'\n").getD "") ++
      statusReference code

end ApiClient.Network
