import Sidecar.Url
import Sidecar.Text.Base64

/-!
# Http/Message — requests and responses

The parts of the messages that the sidecar and its peers exchange.
-/

namespace Sidecar.Http

/-- The methods that a sidecar uses. -/
inductive Method where
  | get
  | post
deriving DecidableEq, Repr

/-- The name of a method on the wire. -/
def Method.name : Method → String
  | get => "GET"
  | post => "POST"

/-- A request before it is written out. -/
structure Request where
  method : Method
  url : Url
  /-- Credentials, each as it goes after the header's name. -/
  authorization : List String
  contentType : Option String
  body : String
deriving DecidableEq, Repr

/-- An answer that has been read. -/
structure Response where
  status : Nat
  headers : List (String × String)
  body : List UInt8
deriving DecidableEq, Repr

/-- A status between 200 and 299. -/
def isSuccess (status : Nat) : Bool := status / 100 == 2

/-- The first value of a header; **its name counts in any letter case.** -/
def Response.header? (r : Response) (name : String) : Option String :=
  (r.headers.find? fun (key, _) => key.toList.map Char.toLower == name.toList.map Char.toLower).map
    (·.2)

/-- The body as text, whatever its octets. -/
def Response.text (r : Response) : String := String.ofList (Text.Utf8.decode r.body)

/-- The credentials that a name and a password make. -/
def basicCredentials (name : String) (password : Option String) : String :=
  let plain := Text.Utf8.encode (name.toList ++ ':' :: (password.getD "").toList)
  "Basic " ++ String.ofList (Text.Base64.encode plain)

namespace Request

/-- A request for a page.  **Credentials in the address move to a header.** -/
def get (url : Url) : Request where
  method := .get
  url := url.withoutCredentials
  authorization := (url.credentials?.map fun (n, p) => basicCredentials n p).toList
  contentType := none
  body := ""

/-- A request that submits one form field. -/
def postForm (url : Url) (field value : String) : Request :=
  { get url with
    method := .post
    contentType := some "application/x-www-form-urlencoded"
    body := field ++ "=" ++ value }

/-- The request with a name and a password for the server, **besides any that it has.** -/
def withCredentials (r : Request) (name password : String) : Request :=
  { r with authorization := r.authorization ++ [basicCredentials name (some password)] }

end Request

/-- The words that usually go with a status. -/
def reason? (status : Nat) : Option String :=
  match status with
  | 100 => some "Continue"
  | 101 => some "Switching Protocols"
  | 102 => some "Processing"
  | 103 => some "Early Hints"
  | 200 => some "OK"
  | 201 => some "Created"
  | 202 => some "Accepted"
  | 203 => some "Non Authoritative Information"
  | 204 => some "No Content"
  | 205 => some "Reset Content"
  | 206 => some "Partial Content"
  | 207 => some "Multi-Status"
  | 208 => some "Already Reported"
  | 226 => some "IM Used"
  | 300 => some "Multiple Choices"
  | 301 => some "Moved Permanently"
  | 302 => some "Found"
  | 303 => some "See Other"
  | 304 => some "Not Modified"
  | 305 => some "Use Proxy"
  | 307 => some "Temporary Redirect"
  | 308 => some "Permanent Redirect"
  | 400 => some "Bad Request"
  | 401 => some "Unauthorized"
  | 402 => some "Payment Required"
  | 403 => some "Forbidden"
  | 404 => some "Not Found"
  | 405 => some "Method Not Allowed"
  | 406 => some "Not Acceptable"
  | 407 => some "Proxy Authentication Required"
  | 408 => some "Request Timeout"
  | 409 => some "Conflict"
  | 410 => some "Gone"
  | 411 => some "Length Required"
  | 412 => some "Precondition Failed"
  | 413 => some "Payload Too Large"
  | 414 => some "URI Too Long"
  | 415 => some "Unsupported Media Type"
  | 416 => some "Range Not Satisfiable"
  | 417 => some "Expectation Failed"
  | 418 => some "I'm a teapot"
  | 421 => some "Misdirected Request"
  | 422 => some "Unprocessable Entity"
  | 423 => some "Locked"
  | 424 => some "Failed Dependency"
  | 425 => some "Too Early"
  | 426 => some "Upgrade Required"
  | 428 => some "Precondition Required"
  | 429 => some "Too Many Requests"
  | 431 => some "Request Header Fields Too Large"
  | 451 => some "Unavailable For Legal Reasons"
  | 500 => some "Internal Server Error"
  | 501 => some "Not Implemented"
  | 502 => some "Bad Gateway"
  | 503 => some "Service Unavailable"
  | 504 => some "Gateway Timeout"
  | 505 => some "HTTP Version Not Supported"
  | 506 => some "Variant Also Negotiates"
  | 507 => some "Insufficient Storage"
  | 508 => some "Loop Detected"
  | 510 => some "Not Extended"
  | 511 => some "Network Authentication Required"
  | _ => none

/-- A status and its words. -/
def statusText (status : Nat) : String :=
  toString status ++ " " ++ (reason? status).getD "<unknown status code>"

end Sidecar.Http
