import Sidecar.Http.Message
import Sidecar.Text.Blank
import Sidecar.Text.Hex

/-!
# Http/Wire — messages as octets

A request is written as a head of lines, an empty line and its body.  A response is read from the
octets that have come so far: **`Response.ofOctets?` has no answer while more must come.**
-/

namespace Sidecar.Http

/-! ## Requests -/

/-- The server that a request names: its host, and its port unless that is the usual one. -/
def Request.server (r : Request) : String :=
  String.ofList r.url.host.text ++ (r.url.port.map fun p => s!":{p}").getD ""

/-- The headers of a request; **the server is told to close the connection after its response.** -/
def Request.headers (r : Request) : List (String × String) :=
  [("host", r.server), ("accept", "*/*"), ("connection", "close")]
    ++ r.authorization.map (("authorization", ·))
    ++ (r.contentType.map (("content-type", ·))).toList
    ++ (if r.method = .post then [("content-length", toString r.body.utf8ByteSize)] else [])

/-- The octets of a request as they are sent. -/
def Request.octets (r : Request) : List UInt8 :=
  let lines := s!"{r.method.name} {r.url.target} HTTP/1.1"
    :: r.headers.map fun (name, value) => s!"{name}: {value}"
  Text.Utf8.encode (("\r\n".intercalate lines ++ "\r\n\r\n" ++ r.body).toList)

/-! ## Responses -/

/-- The octets of the first line, without its end, and those after it. -/
def splitLine? : List UInt8 → Option (List UInt8 × List UInt8)
  | [] => none
  | b :: rest =>
    if b = 10 then some ([], rest)
    else (splitLine? rest).map fun (line, after) => (if b = 13 then line else b :: line, after)

theorem length_of_splitLine? {octets line rest : List UInt8}
    (h : splitLine? octets = some (line, rest)) : rest.length < octets.length := by
  induction octets generalizing line with
  | nil => simp [splitLine?] at h
  | cons b bs ih =>
    simp only [splitLine?] at h
    split at h
    · obtain ⟨_, rfl⟩ := Prod.mk.inj (Option.some.inj h)
      exact Nat.lt_succ_self _
    · obtain ⟨⟨l, r⟩, hs, heq⟩ := Option.map_eq_some_iff.mp h
      obtain ⟨_, rfl⟩ := Prod.mk.inj heq
      exact Nat.lt_succ_of_lt (ih hs)

/-- The lines up to the first empty one, and the octets after that. -/
def splitHead? (octets : List UInt8) : Option (List (List Char) × List UInt8) :=
  match h : splitLine? octets with
  | none => none
  | some ([], rest) => some ([], rest)
  | some (line, rest) =>
    have := length_of_splitLine? h
    (splitHead? rest).map fun (lines, body) => (Text.Utf8.decode line :: lines, body)
termination_by octets.length

/-- The status in the first line of a response. -/
def status? (line : List Char) : Option Nat :=
  let digits := (line.drop 9).take 3
  if "HTTP/1.".toList.isPrefixOf line && digits.length = 3 && digits.all Char.isDigit then
    some (Nat.ofDigitChars 10 digits 0)
  else none

/-- The name and the value of a header's line. -/
def header (line : List Char) : String × String :=
  (String.ofList (line.takeWhile (· ≠ ':')),
    String.ofList (Text.trim ((line.dropWhile (· ≠ ':')).drop 1)))

/-- The size of a chunk, from the line before it. -/
def chunkSize? (line : List UInt8) : Option Nat :=
  let digits := (Text.Utf8.decode line).takeWhile fun c => (Text.hexValue? c).isSome
  if digits.isEmpty then none
  else some (digits.foldl (fun n c => n * 16 + (Text.hexValue? c).getD 0) 0)

/-- The body that chunks make up, **if the last one, which is empty, is there.** -/
def dechunk? (octets : List UInt8) : Option (List UInt8) :=
  match h : splitLine? octets with
  | none => none
  | some (line, rest) =>
    have := length_of_splitLine? h
    match chunkSize? line with
    | none => none
    | some 0 => some []
    | some size =>
      if rest.length < size + 2 then none
      else (dechunk? (rest.drop (size + 2))).map (rest.take size ++ ·)
termination_by octets.length
decreasing_by simp only [List.length_drop]; omega

/-- The body in the octets after the head.  `isEnded` tells that no more will come. -/
def body? (head : Response) (isEnded : Bool) (octets : List UInt8) : Option (List UInt8) :=
  if head.header? "transfer-encoding" = some "chunked" then dechunk? octets
  else
    match (head.header? "content-length").bind (·.toNat?) with
    | some length => if length ≤ octets.length then some (octets.take length) else none
    | none => if isEnded then some octets else none

/-- Reads a response. -/
def Response.ofOctets? (isEnded : Bool) (octets : List UInt8) : Option Response := do
  let (lines, rest) ← splitHead? octets
  let status ← status? (← lines.head?)
  let head : Response := ⟨status, (lines.drop 1).map header, []⟩
  let body ← body? head isEnded rest
  return { head with body }

end Sidecar.Http
