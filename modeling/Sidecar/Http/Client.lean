import Sidecar.Call
import Sidecar.Http.Failure

/-!
# Http/Client — sending a request and following redirects

A `Network` takes one request to its server.  `send` takes a request to its end: it follows up to
ten redirects and gives up when the time for the whole exchange has passed.  How the reference of a
redirect is read is given from outside (`Resolver`).
-/

namespace Sidecar.Http

/-- What one request meets. -/
inductive Answer where
  | response (r : Response)
  | fault (f : Fault)
  /-- The server never answers. -/
  | silence
deriving DecidableEq, Repr

/-- The ways to the servers, with whatever they remember in `σ`. -/
structure Network (σ : Type) where
  /-- Takes a request to its server.  The number is how many milliseconds the caller waits. -/
  exchange : Nat → Request → σ → Answer × σ

/-- A network without a route to anywhere. -/
def Network.none {σ : Type} : Network σ where
  exchange _ _ s := (.fault .unreachable, s)

/-! ## Redirects -/

/-- How many redirects are followed. -/
def redirectLimit : Nat := 10

/-- Whether two addresses name the same server. -/
def sameServer (a b : Url) : Bool := a.host == b.host && a.effectivePort == b.effectivePort

/-- Where the reference of a redirect leads. -/
inductive Destination (α : Type) where
  | address (a : α)
  /-- Out of the `http` family, to the address of this text. -/
  | foreign (text : String)
deriving DecidableEq, Repr

/-- The destination with its address rewritten. -/
def Destination.map {α β : Type} (f : α → β) : Destination α → Destination β
  | address a => .address (f a)
  | foreign text => .foreign text

/-- The client's reading of the references that redirects come with. -/
class Resolver where
  /-- Where a reference leads that is found at an address, **unless it makes no address that a
  request can be sent to.** -/
  resolve? : Url → String → Option (Destination Url)

/-- Reads a reference as `Url.join` does, where no other reading is given. -/
instance (priority := low) joining [Url.Idna] : Resolver where
  resolve? base reference :=
    match base.join reference with
    | .ok url => if url.isSendable then some (.address url) else none
    | .error .otherScheme => some (.foreign (String.ofList (Url.clean reference.toList)))
    | .error _ => none

/-- The credentials that go on to an address: **they stay with the server they were meant for.** -/
def Request.credentialsFor (request : Request) (url : Url) : List String :=
  if sameServer request.url url then request.authorization else []

/-- The request for the page at an address, and nothing else. -/
def Request.pageAt (request : Request) (url : Url) : Request where
  method := .get
  url
  authorization := request.credentialsFor url
  contentType := none
  body := ""

/-- The request, repeated at an address. -/
def Request.repeatedAt (request : Request) (url : Url) : Request :=
  { request with url, authorization := request.credentialsFor url }

/-- Where a response redirects a request to.  **301, 302 and 303 ask for the page; 307 and 308
repeat the request.** -/
def redirect? [Resolver] (request : Request) (response : Response) :
    Option (Destination Request) := do
  let reference ← response.header? "Location"
  let destination ← Resolver.resolve? request.url reference
  if [301, 302, 303].contains response.status then some (destination.map request.pageAt)
  else if [307, 308].contains response.status then some (destination.map request.repeatedAt)
  else none

/-! ## Sending -/

/-- Sends a request and those that redirects ask for, `followed` at most.  **A redirect out of the
`http` family brings nothing.** -/
def follow [Resolver] {σ : Type} (network : Network σ) (timeout : Nat) :
    Nat → Request → σ → Call (Except Failure Response) × σ
  | followed, request, s =>
    if !request.url.isSendable then (.now (.error (.notSendable request.url)), s)
    else
      match network.exchange timeout request s with
      | (.silence, s) => (.after timeout (.error (.notAnswered request.url .timedOut)), s)
      | (.fault f, s) => (.now (.error (.notAnswered request.url f)), s)
      | (.response r, s) =>
        match redirect? request r, followed with
        | none, _ => (.now (.ok r), s)
        | some _, 0 => (.now (.error (.tooManyRedirects request.url)), s)
        | some (.foreign text), _ + 1 => (.now (.error (.otherScheme text)), s)
        | some (.address next), followed + 1 => follow network timeout followed next s

/-- Takes a request to its end. -/
def send [Resolver] {σ : Type} (network : Network σ) (timeout : Nat) (request : Request) (s : σ) :
    Call (Except Failure Response) × σ :=
  follow network timeout redirectLimit request s

end Sidecar.Http
