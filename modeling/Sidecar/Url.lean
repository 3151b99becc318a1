import Sidecar.Url.Host

/-!
# Url — addresses of the `http` family

`Url.parse` reads an address the way browsers do: white space around it goes, tabs and line breaks
vanish, `.` and `..` segments are resolved, and what may not stand for itself is percent-encoded.
`Url.join` reads a reference against the address it was found at.
-/

namespace Sidecar

/-- An address, with each part in the form in which it is written. -/
structure Url where
  isSecure : Bool
  username : List Char
  password : List Char
  host : Url.Host
  /-- The port, unless it is the scheme's own. -/
  port : Option Nat
  /-- The path's segments: `/` joins them and stands before the first. -/
  segments : List (List Char)
  query : Option (List Char)
  fragment : Option (List Char)
deriving DecidableEq, Repr

namespace Url

/-- The port that a scheme stands for. -/
def defaultPort (isSecure : Bool) : Nat := if isSecure then 443 else 80

/-! ## Parts -/

/-- Spaces and controls, which an address may have around it. -/
def isPadding (c : Char) : Bool := c.toNat ≤ 0x20

/-- Tabs and line breaks, which an address may have anywhere. -/
def isIgnored (c : Char) : Bool := c = '\t' || c = '\n' || c = '\r'

/-- The text that is read: without padding at the ends, and without tabs and line breaks. -/
def clean (cs : List Char) : List Char :=
  ((cs.dropWhile isPadding).reverse.dropWhile isPadding).reverse.filter (!isIgnored ·)

/-- A slash of either kind. -/
def isSlash (c : Char) : Bool := c = '/' || c = '\\'

/-- What ends the authority. -/
def endsAuthority (c : Char) : Bool := isSlash c || c = '?' || c = '#'

/-- A name that stands for the directory itself, **also when its point is encoded.** -/
def isDot (cs : List Char) : Bool := cs = ['.'] || cs.map Char.toLower = ['%', '2', 'e']

/-- A name that stands for the directory above. -/
def isDoubleDot (cs : List Char) : Bool :=
  match cs with
  | '.' :: rest => isDot rest
  | '%' :: a :: b :: rest => isDot ['%', a, b] && isDot rest
  | _ => false

/-- Splits at slashes of either kind. -/
def splitSlashes : List Char → List (List Char)
  | [] => [[]]
  | c :: cs =>
    if isSlash c then [] :: splitSlashes cs
    else
      match splitSlashes cs with
      | [] => [[c]]
      | s :: rest => (c :: s) :: rest

/-- Whether a segment looks like the name of a drive. -/
def isDrive : List Char → Bool
  | [letter, mark] => letter.isAlpha && (mark = ':' || mark = '|')
  | _ => false

/-- A path held in reverse without its last segment; **a drive stays.** -/
def leave : List (List Char) → List (List Char)
  | [] => []
  | s :: done => if isDrive s then s :: done else done

/-- Adds raw segments to a path held in reverse.  **A `..` takes the last segment away, and a final
`.` or `..` leaves an empty one behind.** -/
def resolve : List (List Char) → List (List Char) → List (List Char)
  | done, [] => done
  | done, [s] =>
    if isDoubleDot s then [] :: leave done
    else if isDot s then [] :: done
    else Percent.encode Percent.inPath s :: done
  | done, s :: rest =>
    if isDoubleDot s then resolve (leave done) rest
    else if isDot s then resolve done rest
    else resolve (Percent.encode Percent.inPath s :: done) rest

/-- A path's segments, given those that it starts from and the text after its slash. -/
def segmentsFrom (base : List (List Char)) (path : List Char) : List (List Char) :=
  (resolve base.reverse (splitSlashes path)).reverse

/-- The path, the query and the fragment of the text after an authority. -/
def splitTail (cs : List Char) : List Char × Option (List Char) × Option (List Char) :=
  let hash (c : Char) : Bool := c = '#'
  let mark (c : Char) : Bool := c = '?'
  let beforeHash := cs.takeWhile (!hash ·)
  let fragment := match cs.dropWhile (!hash ·) with
    | [] => none
    | _ :: f => some (Percent.encode Percent.inFragment f)
  let query := match beforeHash.dropWhile (!mark ·) with
    | [] => none
    | _ :: q => some (Percent.encode Percent.inQuery q)
  (beforeHash.takeWhile (!mark ·), query, fragment)

/-! ## The authority -/

/-- The text up to the last `@`, if there is one, and the text after it. -/
def splitUserInfo (cs : List Char) : Option (List Char) × List Char :=
  if cs.contains '@' then
    let after := (cs.reverse.takeWhile (· ≠ '@')).reverse
    (some (cs.take (cs.length - after.length - 1)), after)
  else (none, cs)

/-- The host's text, up to a colon outside square brackets, and the rest from that colon on. -/
def splitHost (inBrackets : Bool) : List Char → List Char × List Char
  | [] => ([], [])
  | c :: cs =>
    if c = ':' && !inBrackets then ([], c :: cs)
    else
      let inBrackets := c = '[' || (c ≠ ']' && inBrackets)
      let (host, rest) := splitHost inBrackets cs
      (c :: host, rest)

/-- A port: **at most 65535, and forgotten where it is the scheme's own.** -/
def parsePort (isSecure : Bool) (cs : List Char) : Except Fault (Option Nat) :=
  let value := Nat.ofDigitChars 10 cs 0
  if !cs.all Char.isDigit || 65535 < value then .error .badPort
  else if cs.isEmpty || value = defaultPort isSecure then .ok none
  else .ok (some value)

/-- Reads everything that follows the scheme and its slashes. -/
def parseAuthority [Idna] (isSecure : Bool) (cs : List Char) : Except Fault Url := do
  let authority := cs.takeWhile (!endsAuthority ·)
  let (userInfo, hostPort) := splitUserInfo authority
  let (hostText, portText) := splitHost false hostPort
  if hostText.isEmpty then throw .emptyHost
  let host ← Host.parse hostText
  let port ← parsePort isSecure (portText.drop 1)
  let (path, query, fragment) := splitTail (cs.dropWhile (!endsAuthority ·))
  let credentials := userInfo.getD []
  return {
    isSecure
    username := Percent.encode Percent.inUserInfo (credentials.takeWhile (· ≠ ':'))
    password := Percent.encode Percent.inUserInfo ((credentials.dropWhile (· ≠ ':')).drop 1)
    host, port, query, fragment
    segments := segmentsFrom [] (path.drop 1) }

/-! ## Reading -/

/-- The scheme in lower case and the text after its colon. -/
def splitScheme (cs : List Char) : Option (List Char × List Char) :=
  let scheme := cs.takeWhile (· ≠ ':')
  let isSchemeChar (c : Char) : Bool := c.isAlphanum || "+-.".toList.contains c
  match cs.dropWhile (· ≠ ':') with
  | [] => none
  | _ :: rest =>
    if (scheme.head?.any Char.isAlpha) && scheme.all isSchemeChar then
      some (scheme.map Char.toLower, rest)
    else none

/-- Whether a scheme is `https`, if it is of the family. -/
def schemeSecurity? (scheme : List Char) : Option Bool :=
  if scheme = "http".toList then some false
  else if scheme = "https".toList then some true
  else none

/-- Reads an address that names its scheme. -/
def parse [Idna] (s : String) : Except Fault Url :=
  match splitScheme (clean s.toList) with
  | none => .error .noScheme
  | some (scheme, rest) =>
    match schemeSecurity? scheme with
    | none => .error .otherScheme
    | some isSecure => parseAuthority isSecure (rest.dropWhile isSlash)

/-- Reads a reference without a scheme of its own. -/
def joinRelative [Idna] (base : Url) (cs : List Char) : Except Fault Url :=
  let (path, query, fragment) := splitTail cs
  match cs with
  | a :: b :: _ =>
    if isSlash a && isSlash b then parseAuthority base.isSecure (cs.dropWhile isSlash)
    else if isSlash a then
      .ok { base with segments := segmentsFrom [] (path.drop 1), query, fragment }
    else relative path query fragment
  | [a] =>
    if isSlash a then .ok { base with segments := [[]], query := none, fragment := none }
    else relative path query fragment
  | [] => .ok { base with fragment := none }
where
  /-- A reference that starts from the directory of `base`, or from `base` itself. -/
  relative (path : List Char) (query fragment : Option (List Char)) : Except Fault Url :=
    if path.isEmpty then
      .ok { base with query := if query.isSome then query else base.query, fragment }
    else
      .ok { base with segments := segmentsFrom base.segments.dropLast path, query, fragment }

/-- The address that a reference found at `base` stands for. -/
def join [Idna] (base : Url) (reference : String) : Except Fault Url :=
  let cs := clean reference.toList
  match splitScheme cs with
  | none => joinRelative base cs
  | some (scheme, rest) =>
    match schemeSecurity? scheme with
    | none => .error .otherScheme
    | some isSecure =>
      if isSecure = base.isSecure && (rest.takeWhile isSlash).length < 2 then joinRelative base rest
      else parseAuthority isSecure (rest.dropWhile isSlash)

/-! ## Writing -/

/-- The path as it is sent. -/
def path (u : Url) : List Char := u.segments.flatMap ('/' :: ·)

/-- What a request line names: the path and the query. -/
def target (u : Url) : String :=
  String.ofList (u.path ++ (u.query.map ('?' :: ·)).getD [])

/-- Name and password before the host, as far as there are any. -/
def userInfo (u : Url) : List Char :=
  if u.username.isEmpty && u.password.isEmpty then []
  else if u.password.isEmpty then u.username ++ ['@']
  else u.username ++ ':' :: u.password ++ ['@']

/-- The text of an address; **a port that its scheme stands for is left out.** -/
def text (u : Url) : String :=
  (if u.isSecure then "https://" else "http://")
    ++ String.ofList (u.userInfo ++ u.host.text)
    ++ String.ofList ((u.port.map fun p => ':' :: Nat.toDigits 10 p).getD [])
    ++ u.target ++ String.ofList ((u.fragment.map ('#' :: ·)).getD [])

/-- How long an address may be that is sent, in octets. -/
def lengthLimit : Nat := 65534

/-- Whether a request can be sent to the address: **its host must be one that can be carried**, and
its text not too long. -/
def isSendable (u : Url) : Bool := u.host.isSendable && u.text.utf8ByteSize ≤ lengthLimit

/-- The port that a connection goes to. -/
def effectivePort (u : Url) : Nat := u.port.getD (defaultPort u.isSecure)

/-- The address with no user in it. -/
def withoutCredentials (u : Url) : Url := { u with username := [], password := [] }

/-- The user's name and password, decoded; **octets that are no text count as no credentials.** -/
def credentials? (u : Url) : Option (String × Option String) :=
  let decoded (cs : List Char) : Option String := String.fromUTF8? ⟨(Percent.decode cs).toArray⟩
  let password := if u.password.isEmpty then none else decoded u.password
  match decoded u.username with
  | none => none
  | some name => if name.isEmpty && password.isNone then none else some (name, password)

end Url

end Sidecar
