import ChainIndex.Text.Blank
import ChainIndex.Url.Host

/-!
# URLs

A text is read as a URL in one pass from left to right: scheme, user and password, host and port, path,
query, fragment. What the reading makes of it is what is written: small letters in scheme and host, no
port that goes without saying, no dots in the path, and everything encoded that has to be. Tabs and line
breaks count for nothing.
-/

namespace ChainIndex

/-- A path: segments with a slash in front of each, or a text that is left as it is. -/
inductive Url.Path where
  | segments (ss : List String)
  | verbatim (s : String)
  deriving DecidableEq, Repr

structure Url where
  scheme : String
  user : String
  password : String
  host : Option Url.Host
  port : Option Nat
  path : Url.Path
  query : Option String
  fragment : Option String
  deriving DecidableEq, Repr

namespace Url

/-- The schemes whose URLs have a host, with the ports that go without saying. -/
def specialPorts : List (String × Nat) := [("http", 80), ("https", 443), ("ws", 80), ("wss", 443), ("ftp", 21)]

def isSpecial (scheme : String) : Bool := scheme == "file" || (specialPorts.lookup scheme).isSome

/-! ## Scheme -/

def isSchemeChar (c : Char) : Bool := c.isAlphanum || c == '+' || c == '-' || c == '.'

/-- The scheme of a text, in small letters, and what follows its colon. -/
def scheme? (cs : List Char) : Option (String × List Char) :=
  let front := cs.takeWhile isSchemeChar
  match front, cs.drop front.length with
  | c :: _, ':' :: rest => if c.isAlpha then some (String.ofList (front.map Char.toLower), rest) else none
  | _, _ => none

/-! ## Authority -/

/-- Whether a character ends the authority. -/
def endsAuthority (special : Bool) (c : Char) : Bool :=
  c == '/' || c == '?' || c == '#' || (special && c == '\\')

/-- Cuts at the last `@`. -/
def cutUser (cs : List Char) : Option (List Char) × List Char :=
  match cs.reverse.span (· ≠ '@') with
  | (back, '@' :: front) => (some front.reverse, back.reverse)
  | _ => (none, cs)

/-- Cuts a host from its port at the first colon outside brackets. -/
def cutPort (inside : Bool) : List Char → List Char × Option (List Char)
  | [] => ([], none)
  | c :: rest =>
    if c == ':' && !inside then ([], some rest)
    else
      let (host, port) := cutPort (if c == '[' then true else if c == ']' then false else inside) rest
      (c :: host, port)

/-- A port, unless it goes without saying for the scheme. -/
def parsePort (scheme : String) (cs : List Char) : Except Error (Option Nat) :=
  match numberIn? 10 cs with
  | none => .error .port
  | some n =>
    if 65535 < n then .error .port
    else .ok (if cs = [] ∨ specialPorts.lookup scheme = some n then none else some n)

def parseHost (special : Bool) (cs : List Char) (hasPort : Bool) : Except Error Host :=
  if cs = [] then
    if special ∨ hasPort then .error .emptyHost else .ok (.domain "")
  else if special then Host.parse cs
  else Host.parseOpaque cs

/-! ## Path -/

def isSingleDot (s : String) : Bool := s == "." || s.toLower == "%2e"

def isDoubleDot (s : String) : Bool := [ "..", ".%2e", "%2e.", "%2e%2e" ].contains s.toLower

/-- A segment that names a drive: a letter, and a colon or a bar. -/
def isDrive (s : String) : Bool :=
  match s.toList with
  | [c, mark] => c.isAlpha && (mark == ':' || mark == '|')
  | _ => false

/-- What is left of a path when it goes up: all but its last segment, and that too if it is a drive. -/
def goUp (done : List String) : List String :=
  match done.getLast? with
  | some s => if isDrive s then done else done.dropLast
  | none => []

/-- Adds segments to those in front of them. A dot stands for the segment it is in and two dots for the
one before, and a path that ends with either ends with a slash. A drive at the beginning of a file's path is
written with a colon. -/
def walk (file : Bool) : (done : List String) → List String → List String
  | done, [] => done
  | done, s :: rest =>
    let slash := if rest = [] then [""] else []
    if isDoubleDot s then walk file (goUp done ++ slash) rest
    else if isSingleDot s then walk file (done ++ slash) rest
    else if file && done = [] && isDrive s then walk file [s.map fun c => if c = '|' then ':' else c] rest
    else walk file (done ++ [s]) rest

def parsePath (scheme : String) (cs : List Char) : List String :=
  let special := isSpecial scheme
  let cs := if special then cs.map fun c => if c == '\\' then '/' else c else cs
  let segments := fun (cs : List Char) => walk (scheme = "file") [] ((Text.splitOn '/' cs).map (encodeIn .path))
  match cs with
  | '/' :: rest => segments rest
  | [] => if special then [""] else []
  | cs => segments cs

/-! ## Query and fragment -/

/-- Cuts a text into path, query and fragment. -/
def cutTail (cs : List Char) : List Char × Option (List Char) × Option (List Char) :=
  let (front, fragment) := Text.cutAt '#' cs
  let (path, query) := Text.cutAt '?' front
  (path, query, fragment)

def finish (scheme user password : String) (host : Option Host) (port : Option Nat) (rest : List Char)
    (path : List Char → Path) : Url :=
  let (front, query, fragment) := cutTail rest
  { scheme, user, password, host, port
    path := path front
    query := query.map (encodeIn (if isSpecial scheme then .specialQuery else .query))
    fragment := fragment.map (encodeIn .fragment) }

/-! ## All together -/

/-- Reads what stands after two slashes. -/
def parseAuthority (scheme : String) (cs : List Char) : Except Error Url := do
  let special := isSpecial scheme
  let (authority, rest) := cs.span (!endsAuthority special ·)
  let (info, place) := cutUser authority
  let (user, password) := Text.cutAt ':' (info.getD [])
  let (hostText, portText) := cutPort false place
  if info.isSome ∧ place = [] then throw .emptyHost
  let host ← parseHost special hostText portText.isSome
  let port ← parsePort scheme (portText.getD [])
  pure (finish scheme (encodeIn .userinfo user) (encodeIn .userinfo (password.getD [])) (some host) port rest
    fun path => .segments (parsePath scheme path))

/-- Drops what a file's path has in vain: empty segments at its beginning, and a host in front of a drive. -/
def tidyFile (u : Url) : Url :=
  match u.path with
  | .verbatim _ => u
  | .segments ss =>
    let full := ss.dropWhile (· = "")
    { u with
      host := if ss.head?.any isDrive then none else u.host
      path := .segments (if full = [] then [""] else full) }

/-- Reads what stands after the colon of `file`. A drive is no host. -/
def parseFile (cs : List Char) : Except Error Url := do
  let isSlash (c : Char) := c == '/' || c == '\\'
  let finish (host : Option Host) (rest : List Char) :=
    tidyFile (finish "file" "" "" host none rest fun path => .segments (parsePath "file" path))
  match cs with
  | a :: b :: rest =>
    if isSlash a ∧ isSlash b then
      let (hostText, behind) := rest.span (!endsAuthority true ·)
      if isDrive (String.ofList hostText) then pure (finish none rest)
      else
        let host ← if hostText = [] then pure none else some <$> Host.parse hostText
        pure (finish (if host = some (.domain "localhost") then none else host) behind)
    else
      pure (finish none cs)
  | cs => pure (finish none cs)

/-- Reads what stands after the colon of a scheme. -/
def parseAfterScheme (scheme : String) (cs : List Char) : Except Error Url :=
  if scheme = "file" then parseFile cs
  else if isSpecial scheme then parseAuthority scheme (cs.dropWhile fun c => c == '/' || c == '\\')
  else
    match cs with
    | '/' :: '/' :: rest => parseAuthority scheme rest
    | '/' :: rest => .ok (finish scheme "" "" none none ('/' :: rest) fun path => .segments (parsePath scheme path))
    | rest => .ok (finish scheme "" "" none none rest fun path => .verbatim (encodeIn .verbatim path))

/-- Reads a URL. -/
def parse (text : String) : Except Error Url :=
  let cs := Text.trimWhile (·.toNat ≤ 32) text.toList
  let cs := cs.filter fun c => !"\t\n\r".contains c
  match scheme? cs with
  | none => .error .noScheme
  | some (scheme, rest) => parseAfterScheme scheme rest

/-! ## Writing -/

def Path.toString : Path → String
  | .segments ss => String.join (ss.map ("/" ++ ·))
  | .verbatim s => s

/-- What keeps the beginning of a path from being taken for a host. -/
def Path.guard : Path → String
  | .segments ("" :: _ :: _) => "/."
  | _ => ""

/-- The URL as it is written. -/
def toString (u : Url) : String :=
  let user :=
    if u.user = "" ∧ u.password = "" then ""
    else u.user ++ (if u.password = "" then "" else ":" ++ u.password) ++ "@"
  let port := match u.port with
    | some n => ":" ++ s!"{n}"
    | none => ""
  let authority := match u.host with
    | some host => "//" ++ user ++ host.toString ++ port
    | none => if u.scheme = "file" then "//" else u.path.guard
  let tail (mark : String) : Option String → String
    | some s => mark ++ s
    | none => ""
  u.scheme ++ ":" ++ authority ++ u.path.toString ++ tail "?" u.query ++ tail "#" u.fragment

end Url

end ChainIndex
