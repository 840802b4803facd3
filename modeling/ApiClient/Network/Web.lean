import ApiClient.Network.Fault

/-! Fetching a resource from the web. -/

namespace ApiClient.Network

/-- The web, as it answers a request for an address: with a response, or by breaking off. -/
abbrev Web := Url → Except (Disruption × String) Response

/-- A web in which no server can be reached. -/
def Web.unreachable : Web :=
  fun _ => .error (.connection, "connection refused")

inductive RedirectPolicy where
  | follow
  | report
  deriving DecidableEq, Repr

/-- As many redirections are followed, one after the other. -/
def greatestRedirectCount : Nat := 20

/-- The address to which a request is redirected. A fragment is carried along. -/
def redirected (url : Url) (place : String) : Except Fault Url := do
  let target ← (Url.read place).mapError Fault.badRedirection
  let target ←
    if !target.scheme.isEmpty && target.host.isEmpty then
      (target.withHost url.host).mapError Fault.badAddress
    else pure target
  let target ←
    if target.isRelative then (url.resolve target).mapError Fault.badAddress else pure target
  (url.withFragmentOf target).mapError Fault.badAddress

/-- The response to a single request. Nothing can be kept for an address without a scheme. -/
def exchange (web : Web) (url : Url) : Except Fault Response := do
  let response ← (web url).mapError fun (kind, text) => Fault.disrupted kind text
  if let some found := response.headerMisspelling? then throw (.badHeader found)
  let response ← response.decoded.mapError fun fault => Fault.disrupted .decoding fault.message
  if url.scheme.isEmpty then throw (.noScheme url.text) else return response

/-- The response to a request in the end, with the address that gave it. That an address to which a
request is redirected is invalid shows even if redirections are not followed. -/
def request (web : Web) (policy : RedirectPolicy) (redirects : Nat) (url : Url) :
    Except Fault (Url × Response) := do
  let response ← exchange web url
  match response.redirection? with
  | none => return (url, response)
  | some place =>
    let target ← redirected url place
    match policy, redirects with
    | .report, _ => return (url, response)
    | .follow, 0 => throw .tooManyRedirections
    | .follow, redirects + 1 => request web policy redirects target

/-- A response that is a success. -/
def fetch (web : Web) (policy : RedirectPolicy) (source : String) : Except Fault Response := do
  let url ← (Url.read source).mapError Fault.badAddress
  let (url, response) ← request web policy greatestRedirectCount url.forRequest
  if response.isSuccess then return response
  else throw (.status response.status url.text response.redirection?)

end ApiClient.Network
