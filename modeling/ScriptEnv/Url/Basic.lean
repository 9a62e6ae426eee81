import ScriptEnv.Url.Host
import ScriptEnv.Url.Path

namespace ScriptEnv

open Url (Fault)

structure Url where
  scheme : List Char
  /-- Whether `//` and a possibly empty host stand before the path. -/
  hasAuthority : Bool
  username : List Char
  password : Option (List Char)
  host : Option (List Char)
  port : Option Nat
  path : List Char
  query : Option (List Char)
  fragment : Option (List Char)
  deriving DecidableEq, Repr

namespace Url

def specialSchemes : List (String × Option Nat) :=
  [("http", some 80), ("https", some 443), ("ws", some 80), ("wss", some 443), ("ftp", some 21),
    ("file", none)]

def isSpecial (scheme : List Char) : Bool :=
  specialSchemes.any fun s ↦ s.1.toList == scheme

def defaultPort (scheme : List Char) : Option Nat :=
  (specialSchemes.find? fun s ↦ s.1.toList == scheme).bind Prod.snd

def cleaned (s : List Char) : List Char :=
  let isEdge (c : Char) : Bool := c.toNat ≤ 0x20
  ((s.dropWhile isEdge).reverse.dropWhile isEdge).reverse.filter fun c ↦
    c ≠ '\t' && c ≠ '\n' && c ≠ '\r'

def isSchemeChar (c : Char) : Bool :=
  c.isAlpha || c.isDigit || c == '+' || c == '-' || c == '.'

def cutScheme (s : List Char) : Option (List Char × List Char) :=
  match s.head?, s.dropWhile isSchemeChar with
  | some c, ':' :: r =>
    if c.isAlpha then some ((s.takeWhile isSchemeChar).map Char.toLower, r) else none
  | _, _ => none

def endsAuthority (special : Bool) (c : Char) : Bool :=
  c == '/' || c == '?' || c == '#' || (special && c == '\\')

structure Userinfo where
  username : List Char
  password : Option (List Char)

/-- A name, and after the first colon a password unless it is empty. -/
def Userinfo.ofText (s : List Char) : Userinfo :=
  match Text.cutFirst ':' s with
  | none => ⟨percentEncode userinfoSet s, none⟩
  | some (user, pass) =>
    ⟨percentEncode userinfoSet user,
      if pass = [] then none else some (percentEncode userinfoSet pass)⟩

def Userinfo.isEmpty (u : Userinfo) : Bool := u.username = [] && u.password = none

/-- The user information up to the last `@` of the authority, and what follows it. -/
def cutUserinfo (special : Bool) (s : List Char) : Except Fault (Userinfo × List Char) :=
  let authority := s.takeWhile fun c ↦ !endsAuthority special c
  let rest := s.dropWhile fun c ↦ !endsAuthority special c
  match Text.cutLast '@' authority with
  | none => .ok (⟨[], none⟩, s)
  | some ([], []) => if rest = [] then .ok (⟨[], none⟩, []) else .error .emptyHost
  | some (info, host) => .ok (.ofText info, host ++ rest)

/-- The text of a host, up to a colon outside brackets or the end of the authority. -/
def cutHost (special : Bool) : Bool → List Char → List Char × List Char
  | _, [] => ([], [])
  | inside, c :: r =>
    if (c = ':' ∧ ¬inside) ∨ endsAuthority special c then ([], c :: r)
    else
      let (host, rest) := cutHost special (c = '[' || (inside && c ≠ ']')) r
      (c :: host, rest)

def cutPort (s : List Char) : Except Fault (Option Nat × List Char) :=
  let digits := s.takeWhile Number.isDigit
  let rest := s.dropWhile Number.isDigit
  let port := Number.decimalValue digits
  if 65535 < port then .error .badPort
  else
    let ends : Bool := match rest with
      | [] => true
      | c :: _ => endsAuthority true c
    if ends then .ok (if digits = [] then none else some port, rest) else .error .badPort

structure Authority where
  userinfo : Userinfo
  host : List Char
  port : Option Nat

def cutAuthority (scheme : List Char) (s : List Char) : Except Fault (Authority × List Char) := do
  let special := isSpecial scheme
  let (info, s) ← cutUserinfo special s
  let (text, s) := cutHost special false s
  let host ← if special then (if text = [] then .error .emptyHost else domain text) else opaqueHost text
  if host = [] ∧ (s.head? = some ':' ∨ ¬info.isEmpty) then .error .emptyHost
  else
    match s with
    | ':' :: r =>
      let (port, r) ← cutPort r
      .ok (⟨info, host, if port = defaultPort scheme then none else port⟩, r)
    | s => .ok (⟨info, host, none⟩, s)

/-- The host of a file URL and the text from the path on; this machine's own name is left out. -/
def cutFileHost (s : List Char) : Except Fault (List Char × List Char) :=
  let text := s.takeWhile fun c ↦ !endsAuthority true c
  let rest := s.dropWhile fun c ↦ !endsAuthority true c
  if isDrive text then .ok ([], '/' :: s)
  else if text = [] then .ok ([], rest)
  else (domain text).map fun host ↦ (if host = "localhost".toList then [] else host, rest)

def cutTail (special : Bool) (s : List Char) :
    List Char × Option (List Char) × Option (List Char) :=
  let (front, fragment) := match Text.cutFirst '#' s with
    | none => (s, none)
    | some (a, b) => (a, some (percentEncode fragmentSet b))
  match Text.cutFirst '?' front with
  | none => (front, none, fragment)
  | some (a, b) =>
    (a, some (percentEncode (if special then specialQuerySet else querySet) b), fragment)

def rootedPath (special : Bool) (text : List Char) : List Char :=
  let text := if special then text.map fun c ↦ if c = '\\' then '/' else c else text
  match text with
  | [] => if special then ['/'] else []
  | '/' :: r => addPath ['/'] r
  | r => addPath ['/'] r

def ofAuthority (scheme : List Char) (a : Authority) (s : List Char) : Url :=
  let special := isSpecial scheme
  let (path, query, fragment) := cutTail special s
  ⟨scheme, true, a.userinfo.username, a.userinfo.password,
    if a.host = [] then none else some a.host, a.port, rootedPath special path, query, fragment⟩

/-- A URL without an authority; a path that does not begin with a slash is kept as it is. -/
def ofPath (scheme : List Char) (s : List Char) : Url :=
  let (text, query, fragment) := cutTail false s
  let path := match text with
    | '/' :: r => addPath ['/'] r
    | r => percentEncode controls r
  ⟨scheme, false, [], none, none, none, path, query, fragment⟩

def isSlash (c : Char) : Bool := c = '/' || c = '\\'

def parseFile (scheme : List Char) (s : List Char) : Except Fault Url :=
  let hostless (s : List Char) : Url := ofAuthority scheme ⟨⟨[], none⟩, [], none⟩ s
  match s with
  | a :: b :: r =>
    if isSlash a ∧ isSlash b then
      (cutFileHost r).map fun (host, s) ↦ ofAuthority scheme ⟨⟨[], none⟩, host, none⟩ s
    else .ok (hostless s)
  | _ => .ok (hostless s)

def parseText (s : List Char) : Except Fault Url :=
  match cutScheme s with
  | none => .error .relative
  | some (scheme, s) =>
    if scheme = "file".toList then parseFile scheme s
    else if isSpecial scheme then
      (cutAuthority scheme (s.dropWhile isSlash)).map fun (a, s) ↦ ofAuthority scheme a s
    else
      match s with
      | '/' :: '/' :: r => (cutAuthority scheme r).map fun (a, s) ↦ ofAuthority scheme a s
      | s => .ok (ofPath scheme s)

def parse (s : String) : Except Fault Url := parseText (cleaned s.toList)

def marked (mark : Char) : Option (List Char) → List Char
  | none => []
  | some s => mark :: s

/-- The written form; a path that begins with two slashes is kept apart from an authority by `/.`. -/
def render (u : Url) : String :=
  let userinfo := if u.username = [] ∧ u.password = none then []
    else u.username ++ marked ':' u.password ++ ['@']
  let front := if u.hasAuthority then
      ['/', '/'] ++ userinfo ++ u.host.getD [] ++ marked ':' (u.port.map (Nat.toDigits 10))
    else if ['/', '/'].isPrefixOf u.path then ['/', '.'] else []
  String.ofList (u.scheme ++ ':' :: front ++ u.path ++ marked '?' u.query ++ marked '#' u.fragment)

end Url

end ScriptEnv
