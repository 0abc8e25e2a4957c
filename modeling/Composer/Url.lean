import Composer.Url.Host
set_option autoImplicit false

/-!
# Web addresses

An address is read leniently: outer spaces, tabs and newlines are dropped, backslashes count as
slashes in addresses of the web, and characters that may not stand in a part are percent-encoded.
The text of an address is its one written form.
-/

namespace Composer

/-- An address in parts. -/
structure Url where
  scheme : String
  /-- The name of a user in its written form, empty if there is none. -/
  user : String := ""
  /-- The user's password in its written form, empty if there is none. -/
  password : String := ""
  /-- The host, empty for a file on this computer; an address without any authority has none. -/
  host : Option String
  /-- The port, if it is not the usual one of the scheme. -/
  port : Option Nat := none
  path : String
  query : Option String := none
  fragment : Option String := none
  deriving DecidableEq, Repr

namespace Url

/-! ## Writing -/

/-- Host and port. -/
def authority (u : Url) : String :=
  u.host.getD "" ++ (match u.port with
    | some port => ":" ++ String.ofList (Numeral.digits port)
    | none => "")

/-- The user and the password, with the marks behind them. -/
def credentials (u : Url) : String :=
  u.user ++ (if u.password.isEmpty then "" else ":" ++ u.password)
    ++ (if u.user.isEmpty && u.password.isEmpty then "" else "@")

/-- The path with the query. -/
def target (u : Url) : String := u.path ++ (u.query.map fun q => "?" ++ q).getD ""

/-- What stands between the scheme and the path. A path that begins with two slashes is kept apart
from an authority. -/
def beforePath (u : Url) : String :=
  if u.host.isSome then "//" ++ u.credentials ++ u.authority
  else if Text.startsWith u.path "//" then "/."
  else ""

/-- The text of an address. -/
def text (u : Url) : String :=
  u.scheme ++ ":" ++ u.beforePath ++ u.target ++ (u.fragment.map fun f => "#" ++ f).getD ""

/-- The address without user and password, as it is used once they are taken from it. They stay
where their text cannot be read. -/
def withoutCredentials (u : Url) : Url :=
  let isText (s : String) : Bool := (Utf8.decode? (Percent.decode s.toList)).isSome
  if isText u.user && (!u.user.isEmpty || isText u.password) then
    { u with user := "", password := "" }
  else u

/-- Whether an address names a host. -/
def hasHost (u : Url) : Bool := !(u.host.getD "").isEmpty

/-- Whether an address is one of the web. -/
def isWeb (u : Url) : Bool := u.scheme == "http" || u.scheme == "https"

/-! ## Reading -/

/-- Schemes whose addresses have the form of the web's, with their usual ports. -/
def webSchemes : List (String × Option Nat) :=
  [("http", some 80), ("https", some 443), ("ws", some 80), ("wss", some 443), ("ftp", some 21),
    ("file", none)]

/-- The characters that are read at all. -/
def significant (cs : List Char) : List Char :=
  let isOuter (c : Char) : Bool := c.toNat ≤ 0x20
  let inner := ((cs.dropWhile isOuter).reverse.dropWhile isOuter).reverse
  inner.filter fun c => c != '\t' && c != '\n' && c != '\r'

/-- Whether a character is a letter of ASCII. -/
def isLetter (c : Char) : Bool := ('a' ≤ c && c ≤ 'z') || ('A' ≤ c && c ≤ 'Z')

/-- The scheme in lower case, and what follows its colon. -/
def scheme? (cs : List Char) : Option (String × List Char) :=
  let isNameChar (c : Char) : Bool :=
    isLetter c || Numeral.isDigit c || c == '+' || c == '-' || c == '.'
  let name := cs.takeWhile isNameChar
  match name, cs.drop name.length with
  | first :: _, ':' :: rest =>
    if isLetter first then some (String.ofList (name.map Chars.lowerAscii), rest) else none
  | _, _ => none

/-- Cuts off what follows a character. -/
def cutAt (mark : Char) (cs : List Char) : List Char × Option (List Char) :=
  match Chars.splitFirst (· == mark) cs with
  | some (before, after) => (before, some after)
  | none => (cs, none)

/-- Cuts a host off from the port behind it; a colon between brackets belongs to the host. -/
def cutPort : (inBrackets : Bool) → List Char → List Char × Option (List Char)
  | _, [] => ([], none)
  | inBrackets, c :: cs =>
    if c = ':' && !inBrackets then ([], some cs)
    else
      let stillInBrackets := if c = '[' then true else if c = ']' then false else inBrackets
      let (host, port) := cutPort stillInBrackets cs
      (c :: host, port)

/-- The port that a text writes; the usual one and an empty text are none. -/
def port? (usual : Option Nat) (cs : List Char) : Option (Option Nat) :=
  if !cs.all Numeral.isDigit then none
  else
    let n := Numeral.ofDigits cs
    if 65535 < n then none
    else if cs.isEmpty || usual == some n then some none
    else some (some n)

/-- The part of an address between the scheme's slashes and the path. -/
structure Authority where
  user : String
  password : String
  host : String
  port : Option Nat
  deriving DecidableEq, Repr

/-- Reads an authority. Only other addresses than those of the web may have an empty host, and then
nothing else. -/
def authority? (web : Bool) (usual : Option Nat) (cs : List Char) : Option Authority := do
  if cs = ['@'] then none
  let (before, hostAndPort) := (Chars.splitLast '@' cs).getD ([], cs)
  let (user, password) := cutAt ':' before
  let password := password.getD []
  let (hostText, portText) := cutPort false hostAndPort
  let isAlone := portText.isNone && user.isEmpty && password.isEmpty
  if hostText.isEmpty && (web || !isAlone) then none
  let host ← if web then Host.ofWeb? hostText else Host.ofOther? hostText
  let port ← port? usual (portText.getD [])
  let written (cs : List Char) : String := String.ofList (Percent.encode Percent.inUser cs)
  return { user := written user, password := written password, host := String.ofList host, port }

/-- Whether a part of a path stands for the folder it is in. -/
def isHere (part : List Char) : Bool :=
  let part := part.map Chars.lowerAscii
  part == ['.'] || part == ['%', '2', 'e']

/-- Whether a part of a path leads up. -/
def isUp (part : List Char) : Bool :=
  let part := part.map Chars.lowerAscii
  part == ['.', '.'] || part == ['.', '%', '2', 'e'] || part == ['%', '2', 'e', '.']
    || part == ['%', '2', 'e', '%', '2', 'e']

/-- Whether a part of a path names a drive: a letter with a colon or a bar. -/
def isDrive : List Char → Bool
  | [c, mark] => isLetter c && (mark == ':' || mark == '|')
  | _ => false

/-- Follows the parts of a path that lead up or nowhere; `done` holds the parts so far, the last one
first. Nothing leads up from a drive. -/
def resolve : (done : List (List Char)) → List (List Char) → List (List Char)
  | done, [] => done.reverse
  | done, part :: rest =>
    let stay (done : List (List Char)) := if rest.isEmpty then [] :: done else done
    if isUp part then
      resolve (stay (if (done.head?.map isDrive).getD false then done else done.drop 1)) rest
    else if isHere part then resolve (stay done) rest
    else resolve (part :: done) rest

/-- The written form of a path behind its first slash. -/
def pathText (cs : List Char) : String :=
  String.ofList ((resolve [] (Chars.pieces '/' cs)).flatMap fun part =>
    '/' :: Percent.encode Percent.inPath part)

/-- A path behind an authority; an empty one is a slash in addresses of the web. -/
def pathAfter (web : Bool) (cs : List Char) : String :=
  match cs with
  | [] => if web then "/" else ""
  | '/' :: rest => pathText rest
  | cs => pathText cs

/-- The address of a file on a host. Slashes at the front of the path count once, and a drive there
is written with a colon and is on this computer. -/
def fileUrl (host : String) (cs : List Char) : Url :=
  let parts := Chars.pieces '/' cs
  let (host, parts) := match parts with
    | [c, mark] :: rest => if isDrive [c, mark] then ("", [c, ':'] :: rest) else (host, parts)
    | _ => (host, parts)
  let parts := ((resolve [] parts).dropWhile List.isEmpty).map (Percent.encode Percent.inPath)
  { scheme := "file", host := some host,
    path := String.ofList ('/' :: List.intercalate ['/'] parts) }

/-- Reads the address of a file behind its scheme. A drive is no host. -/
def file? (cs : List Char) : Option Url :=
  match cs with
  | '/' :: '/' :: rest =>
    let hostText := rest.takeWhile (· != '/')
    let after := rest.dropWhile (· != '/')
    if isDrive hostText then some (fileUrl "" rest)
    else if hostText.isEmpty then some (fileUrl "" after)
    else do
      let host := String.ofList (← Host.ofWeb? hostText)
      return if host = "localhost" then fileUrl "" after else fileUrl host (after.drop 1)
  | '/' :: rest => some (fileUrl "" rest)
  | rest => some (fileUrl "" rest)

/-- The address with an authority and a path. -/
def ofParts (scheme : String) (a : Authority) (path : String) : Url :=
  { scheme, user := a.user, password := a.password, host := some a.host, port := a.port, path }

/-- Reads what stands between the scheme and the query. -/
def location? (scheme : String) (cs : List Char) : Option Url :=
  match webSchemes.lookup scheme with
  | some usual =>
    let cs := cs.map fun c => if c = '\\' then '/' else c
    if scheme = "file" then file? cs
    else do
      let rest := cs.dropWhile (· == '/')
      let a ← authority? true usual (rest.takeWhile (· != '/'))
      return ofParts scheme a (pathAfter true (rest.dropWhile (· != '/')))
  | none =>
    match cs with
    | '/' :: '/' :: rest => do
      let a ← authority? false none (rest.takeWhile (· != '/'))
      return ofParts scheme a (pathAfter false (rest.dropWhile (· != '/')))
    | '/' :: rest => some { scheme, host := none, path := pathText rest }
    | rest =>
      let path := String.ofList (Percent.encode (fun _ => false) rest)
      some { scheme, host := none, path }

/-- Reads an address. -/
def parse? (s : String) : Option Url := do
  let (scheme, rest) ← scheme? (significant s.toList)
  let (rest, fragment) := cutAt '#' rest
  let (rest, query) := cutAt '?' rest
  let url ← location? scheme rest
  let web := (webSchemes.lookup scheme).isSome
  return { url with
    query := query.map fun q => String.ofList (Percent.encode (Percent.inQuery web) q),
    fragment := fragment.map fun f => String.ofList (Percent.encode Percent.inFragment f) }

end Url
end Composer
