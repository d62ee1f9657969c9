import FleetAgent.Url.Host
/-!
# URLs

A URL is read from a text (`Url.parse`) in steps, each of which cuts off one part: blanks around the
text and line breaks and tabs within it are dropped (`clean`); the scheme ends at the first colon
(`cutScheme`); in a special scheme the authority stands behind any number of slashes, and
backslashes are slashes; the authority ends at the next slash, question mark or number sign
(`parseWithAuthority`); the last `@` in it divides user and host, a colon outside brackets host and
port (`parseAuthority`). Segments of the path are percent-encoded, `.` and `..` are resolved
(`parseSegments`).

A URL of a special scheme other than `file` always has a host and a path of at least one segment.
-/

namespace FleetAgent

open FleetAgent.Text

/-- The path of a URL. One of a special scheme always has segments. -/
inductive Url.Path where
  /-- Segments, each behind a slash. -/
  | segments (list : List String)
  /-- A text without structure. -/
  | rootless (text : String)
deriving Repr, DecidableEq

/-- A URL, cut into its parts. Encoded parts are as they are sent. -/
structure Url where
  /-- The scheme, in small letters. -/
  scheme : String
  /-- The name of the user, encoded. -/
  username : String
  /-- The password of the user, encoded. -/
  password : String
  /-- The host. -/
  host : Option Url.Host
  /-- The port, if it is not that of the scheme. -/
  port : Option Nat
  /-- The path, encoded. -/
  path : Url.Path
  /-- The text behind the question mark, encoded. -/
  query : Option String
  /-- The text behind the number sign, encoded. -/
  fragment : Option String
deriving Repr, DecidableEq

namespace Url

/-! ### Schemes -/

/-- The port of a special scheme other than `file`. That there is one also says that the scheme is
such. -/
def defaultPort? (scheme : String) : Option Nat :=
  if scheme = "http" ∨ scheme = "ws" then some 80
  else if scheme = "https" ∨ scheme = "wss" then some 443
  else if scheme = "ftp" then some 21
  else none

/-- Whether a character may stand in a scheme behind its first. -/
def inScheme (c : Char) : Bool :=
  c.isAlphanum || c == '+' || c == '-' || c == '.'

/-- The scheme of the text `cs`, in small letters, and what stands behind its colon; none if what is
in front of the first colon is no scheme. -/
def cutScheme (cs : List Char) : Option (String × List Char) :=
  match splitOnce ':' cs with
  | some (c :: r, rest) =>
    if c.isAlpha && r.all inScheme then
      some (String.ofList ((c :: r).map Char.toLower), rest)
    else none
  | _ => none

/-- Whether the character `c` is a slash; in special schemes a backslash is one too. -/
def isSlash (special : Bool) (c : Char) : Bool :=
  c == '/' || (special && c == '\\')

/-- Whether a character ends the authority. -/
def endsAuthority (special : Bool) (c : Char) : Bool :=
  isSlash special c || c == '?' || c == '#'

/-! ### Authority -/

/-- Divides the text `cs` at the last occurrence of `sep`, if there is one. -/
def cutLast (sep : Char) (cs : List Char) : Option (List Char × List Char) :=
  (splitOnce sep cs.reverse).map fun (a, b) => (b.reverse, a.reverse)

/-- The user name and the password of the text `cs`, encoded. They are divided at its first colon,
and without one there is no password. -/
def userInfo (cs : List Char) : String × String :=
  let (name, word) := (splitOnce ':' cs).getD (cs, [])
  (String.ofList (encode inUserInfo name), String.ofList (encode inUserInfo word))

/-- Divides host and port at the first colon outside brackets. `inside` tells whether the text
starts inside some. -/
def cutPort (inside : Bool) : List Char → List Char × Option (List Char)
  | [] => ([], none)
  | c :: r =>
    if c = ':' ∧ !inside then ([], some r)
    else
      let (host, port) := cutPort (if c = '[' then true else if c = ']' then false else inside) r
      (c :: host, port)

/-- The port of the text `cs` of digits, unless it is that of the scheme. Without digits there is
none. -/
def parsePort (scheme : String) (cs : List Char) : Except ParseError (Option Nat) :=
  match number? 10 cs with
  | none => .error .invalidPort
  | some n =>
    if 65535 < n then .error .invalidPort
    else if cs.isEmpty || some n = defaultPort? scheme then .ok none
    else .ok (some n)

/-- The parts of an authority, encoded as in the URL. -/
structure Authority where
  username : String
  password : String
  host : Option Host
  port : Option Nat
  /-- What stands behind the port and belongs to the path: a backslash ends a port in any scheme. -/
  leftover : List Char

/-- Refuses a URL for want of a host. -/
def refuseIf (b : Bool) : Except ParseError Unit :=
  if b then .error .emptyHost else .ok ()

/-- Reads a host, which is more than a text only in a special scheme. -/
def readHost (special : Bool) (cs : List Char) : Except ParseError Host :=
  if special then parseHost cs else parsePlainHost cs

/-- Reads the authority `cs`. `more` tells whether something follows it. User, host and port are
looked at in this order, and the first that is wrong is reported. -/
def parseAuthority (scheme : String) (special more : Bool) (cs : List Char) :
    Except ParseError Authority := do
  let (user, hostPort) := (cutLast '@' cs).getD ([], cs)
  refuseIf ((cutLast '@' cs).isSome && user.isEmpty && hostPort.isEmpty && more)
  let (username, password) := userInfo user
  let (hostText, portText) := cutPort false hostPort
  refuseIf (special && hostText.isEmpty)
  let host ← readHost special hostText
  refuseIf (hostText.isEmpty && portText.isSome)
  let digits := (portText.getD []).takeWhile (· != '\\')
  let port ← parsePort scheme digits
  refuseIf (hostText.isEmpty && (username != "" || password != ""))
  return {
    username, password, port
    host := if hostText.isEmpty then none else some host
    leftover := (portText.getD []).drop digits.length }

/-! ### Path, query and fragment -/

/-- Whether a segment stands for its place in the path. -/
def isSingleDot (s : List Char) : Bool :=
  ['.'] == s || ['%', '2', 'e'] == s.map Char.toLower

/-- Whether a segment stands for the place above. Either dot may be encoded. -/
def isDoubleDot (s : List Char) : Bool :=
  let t := s.map Char.toLower
  [['.', '.'], ['.', '%', '2', 'e'], ['%', '2', 'e', '.'],
    ['%', '2', 'e', '%', '2', 'e']].contains t

/-- Resolves the segments of a path one after the other, behind those that are done. A dot segment
at the end leaves an empty one. -/
def resolve : List String → List (List Char) → List String
  | done, [] => done
  -- The last piece is a file in its directory: a dot segment in its place leaves the directory.
  | done, [s] =>
    if isDoubleDot s then done.dropLast ++ [""]
    else if isSingleDot s then done ++ [""]
    else done ++ [String.ofList s]
  | done, s :: r =>
    if isDoubleDot s then resolve done.dropLast r
    else if isSingleDot s then resolve done r
    else resolve (done ++ [String.ofList s]) r

/-- The segments of the text `cs` of a path, which is empty or starts with a slash: encoded one by
one, and then resolved. -/
def parseSegments (special : Bool) (cs : List Char) : List String :=
  -- A backslash divides a path of a special scheme as a slash does.
  let cs := cs.map fun c => if isSlash special c then '/' else c
  match cs with
  | [] => if special then [""] else []
  | '/' :: r => resolve [] ((splitOn '/' r).map (encode inPath))
  | r => resolve [] ((splitOn '/' r).map (encode inPath))

/-- The text up to the query or the fragment, the query and the fragment. A question mark in the
fragment belongs to it. -/
def cutTail (cs : List Char) : List Char × Option (List Char) × Option (List Char) :=
  let (front, fragment) := match splitOnce '#' cs with
    | none => (cs, none)
    | some (a, b) => (a, some b)
  match splitOnce '?' front with
  | none => (front, none, fragment)
  | some (a, b) => (a, some b, fragment)

/-- A query, encoded. -/
def encodeQuery (special : Bool) (cs : List Char) : String :=
  String.ofList (encode (if special then inSpecialQuery else inQuery) cs)

/-- A fragment, encoded. -/
def encodeFragment (cs : List Char) : String :=
  String.ofList (encode inFragment cs)

/-! ### URLs -/

/-- Reads what stands behind the slashes of a URL with an authority, up to the end of `cs`. -/
def parseWithAuthority (scheme : String) (special : Bool) (cs : List Char) :
    Except ParseError Url := do
  let authorityText := cs.takeWhile (!endsAuthority special ·)
  let rest := cs.drop authorityText.length
  let a ← parseAuthority scheme special (!rest.isEmpty) authorityText
  let (path, query, fragment) := cutTail (a.leftover ++ rest)
  return { scheme, username := a.username, password := a.password, host := a.host, port := a.port,
           path := .segments (parseSegments special path),
           query := query.map (encodeQuery special), fragment := fragment.map encodeFragment }

/-- Whether a text is a letter with a colon or a bar, which names a drive and not a host. -/
def isDriveLetter : List Char → Bool
  | [c, d] => c.isAlpha && (d == ':' || d == '|')
  | _ => false

/-- Reads what stands behind the colon of a `file` URL. Its host may be missing, and `localhost`
counts as none. -/
def parseFile (cs : List Char) : Except ParseError Url := do
  let (hostText, rest) := match cs with
    | a :: b :: r =>
      if isSlash true a && isSlash true b then
        let host := r.takeWhile (!endsAuthority true ·)
        if isDriveLetter host then ([], r) else (host, r.drop host.length)
      else ([], cs)
    | _ => ([], cs)
  let host ← if hostText.isEmpty then pure none else do
    let host ← parseHost hostText
    pure (if host = .domain "localhost" then none else some host)
  let (path, query, fragment) := cutTail rest
  return { scheme := "file", username := "", password := "", host, port := none,
           path := .segments (parseSegments true path),
           query := query.map (encodeQuery true), fragment := fragment.map encodeFragment }

/-- Reads what stands behind the colon of a URL without an authority. Nothing in it can be wrong. -/
def parseRootless (scheme : String) (cs : List Char) : Url :=
  let (path, query, fragment) := cutTail cs
  { scheme, username := "", password := "", host := none, port := none,
    path := match path with
      | '/' :: _ => .segments (parseSegments false path)
      | _ => .rootless (String.ofList (encode inControls path)),
    query := query.map (encodeQuery false), fragment := fragment.map encodeFragment }

/-- The text without blanks and controls at its ends and without tabs and line breaks in it. -/
def clean (cs : List Char) : List Char :=
  (trimChars (fun c => c.toNat ≤ 0x20) cs).filter fun c => c != '\t' && c != '\n' && c != '\r'

/-- Reads the URL of the text `s`. Without a scheme there is none. -/
def parse (s : String) : Except ParseError Url :=
  match cutScheme (clean s.toList) with
  | none => .error .noBase
  | some (scheme, rest) =>
    if scheme = "file" then parseFile rest
    else if (defaultPort? scheme).isSome then
      parseWithAuthority scheme true (rest.dropWhile (isSlash true))
    else match rest with
      | '/' :: '/' :: r => parseWithAuthority scheme false r
      | r => .ok (parseRootless scheme r)

/-! ### Views -/

/-- The path as it is written. -/
def pathText (u : Url) : String :=
  match u.path with
  | .segments list => String.join (list.map ("/" ++ ·))
  | .rootless text => text

/-- What is asked for in a request: the path and the query, without the fragment. -/
def target (u : Url) : String :=
  u.pathText ++ match u.query with
    | none => ""
    | some q => "?" ++ q

end Url

end FleetAgent
