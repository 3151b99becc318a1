import Sidecar.Http.Message

/-!
# Http/Failure — why a request brings no response

A failure has a message of its own and a chain of causes, from the nearest to the deepest.
-/

namespace Sidecar.Http

/-- What goes wrong on the way to a server and back. -/
inductive Fault where
  | unreachable
  | refused
  | closed
  | timedOut
deriving DecidableEq, Repr

/-- The causes of a fault, from the nearest to the deepest. -/
def Fault.causes : Fault → List String
  | unreachable =>
    ["client error (Connect)", "tcp connect error", "Network is unreachable (os error 101)"]
  | refused => ["client error (Connect)", "tcp connect error", "Connection refused (os error 111)"]
  | closed => ["client error (SendRequest)", "connection closed before message completed"]
  | timedOut => ["operation timed out"]

/-- Why a request brings no response. -/
inductive Failure where
  /-- The text is no address. -/
  | notBuilt (fault : Url.Fault)
  /-- The address is too long, or its host is one that no request line can carry. -/
  | notSendable (url : Url)
  /-- A redirect leads out of the `http` family, to the address of this text. -/
  | otherScheme (text : String)
  | notAnswered (url : Url) (fault : Fault)
  | tooManyRedirects (url : Url)
deriving DecidableEq, Repr

namespace Failure

/-- The failure's own message. -/
def message : Failure → String
  | notBuilt _ => "builder error"
  | notSendable url => s!"builder error for url ({url.text})"
  | otherScheme text => s!"builder error for url ({text})"
  | notAnswered url _ => s!"error sending request for url ({url.text})"
  | tooManyRedirects url => s!"error following redirect for url ({url.text})"

/-- The causes behind the message, from the nearest to the deepest. -/
def causes : Failure → List String
  | notBuilt fault => [fault.message]
  | notSendable _ => ["Parsed Url is not a valid Uri"]
  | otherScheme _ => [Url.Fault.otherScheme.message]
  | notAnswered _ fault => fault.causes
  | tooManyRedirects _ => ["too many redirects"]

end Failure

end Sidecar.Http
