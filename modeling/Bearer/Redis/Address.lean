import Bearer.Redis.Ipv6
import Bearer.Redis.Percent
import Bearer.Text.Decimal

/-!
# Where a server is

The host setting is the part of an address between `redis://` and a final slash: credentials before
an at sign, a host, a port, the number of a database and a query. `ofHost` reads it and says what is
wrong with it.
-/

namespace Bearer.Redis

/-- What a client needs to know of its server. -/
structure Address where
  /-- The name or the number of the host. -/
  host : String
  /-- The port, if it is given. -/
  port : Option Nat
  /-- The number of the database. -/
  database : Int
  /-- The name to log in with. -/
  username : Option String
  /-- The password to log in with. -/
  password : Option String
  /-- The revision of the protocol. -/
  protocol : Nat
deriving DecidableEq, Repr

/-- Why a host setting is refused. -/
inductive AddressFault where
  /-- It has not the form of an address. -/
  | malformed
  /-- There is no host. -/
  | noHost
  /-- The database is no number. -/
  | badDatabase
  /-- The name to log in with is no text. -/
  | badUsername
  /-- The password is no text. -/
  | badPassword
  /-- The protocol is unknown. -/
  | badProtocol (value : String)
deriving DecidableEq, Repr

/-- The wording of a fault. -/
def AddressFault.message : AddressFault → String
  | malformed => "Redis URL did not parse- InvalidClientConfig"
  | noHost => "Missing hostname- InvalidClientConfig"
  | badDatabase => "Invalid database number- InvalidClientConfig"
  | badUsername => "Username is not valid UTF-8 string- InvalidClientConfig"
  | badPassword => "Password is not valid UTF-8 string- InvalidClientConfig"
  | badProtocol value => "Invalid protocol version - InvalidClientConfig: " ++ value

namespace Address

/-- Whether a character ends the part with the host. -/
def endsAuthority (character : Char) : Bool :=
  character = '/' || character = '?' || character = '#'

/-- The credentials before the last at sign, if there is one, and the rest. -/
def splitCredentials (text : List Char) : Option (List Char) × List Char :=
  let authority := text.takeWhile fun character => !endsAuthority character
  let rest := text.dropWhile fun character => !endsAuthority character
  match authority.reverse.span (· ≠ '@') with
  | (host, '@' :: credentials) => (some credentials.reverse, host.reverse ++ rest)
  | _ => (none, text)

/-- The host and the rest. A colon inside brackets belongs to the host. -/
def splitHost : Bool → List Char → List Char × List Char
  | _, [] => ([], [])
  | bracketed, character :: rest =>
    if endsAuthority character || (character = ':' && !bracketed) then ([], character :: rest)
    else
      let inside := character = '[' || (bracketed && character ≠ ']')
      let (host, others) := splitHost inside rest
      (character :: host, others)

/-- Characters that no host has. -/
def forbidden : List Char :=
  ['\x00', '\t', '\n', '\x0d', ' ', '#', '/', ':', '<', '>', '?', '@', '[', '\\', ']', '^', '|']

/-- Whether a text can be a host. -/
def isHost (host : List Char) : Bool :=
  if host.head? = some '[' then
    host.getLast? = some ']' && Ipv6.isAddress (host.drop 1).dropLast
  else host.all fun character => !forbidden.contains character

/-- The port after a colon, which may be empty, and the rest. -/
def splitPort? (text : List Char) : Option (Option Nat × List Char) :=
  let digits := text.takeWhile Char.isDigit
  let rest := text.dropWhile Char.isDigit
  let port := Nat.ofDigitChars 10 digits 0
  if port < 65536 ∧ rest.head?.all (fun next => endsAuthority next || next = '\\') then
    some (if digits = [] then none else some port, rest)
  else none

/-- A segment with its escaped dots written out. -/
def withDots : List Char → List Char
  | [] => []
  | '%' :: '2' :: 'e' :: rest => '.' :: withDots rest
  | '%' :: '2' :: 'E' :: rest => '.' :: withDots rest
  | character :: rest => character :: withDots rest

/-- Whether a segment is a letter with a colon or a bar, alone or before a backslash. Two dots do
not remove such a segment. -/
def isDrive : List Char → Bool
  | letter :: mark :: rest =>
    letter.isAlpha && (mark = ':' || mark = '|') && rest.head?.all (· = '\\')
  | _ => false

/-- The path after one more segment. One dot adds nothing, two dots remove the segment before. -/
def addSegment (path : List (List Char)) (segment : List Char) : List (List Char) :=
  if withDots segment = ['.'] then path
  else if withDots segment = ['.', '.'] then
    if path.getLast?.any isDrive then path else path.dropLast
  else path ++ [segment]

/-- A text without slashes at its ends. -/
def withoutSlashes (text : List Char) : List Char :=
  ((text.dropWhile (· = '/')).reverse.dropWhile (· = '/')).reverse

/-- The number of the database in a path; zero if the path is empty. -/
def database? (path : List Char) : Option Int :=
  let relative := if path.head? = some '/' then path.drop 1 else path
  let segments := (relative.splitOn '/').foldl addSegment []
  match withoutSlashes (['/'].intercalate segments) with
  | [] => some 0
  | number => Decimal.integer64? number

/-- The name and the password in the credentials, as they are written. -/
def splitPassword (credentials : List Char) : List Char × Option (List Char) :=
  match credentials.span (· ≠ ':') with
  | (username, ':' :: password) => (username, if password = [] then none else some password)
  | (username, _) => (username, none)

/-- Whether there is a name or a password. -/
def hasCredentials (credentials : Option (List Char)) : Bool :=
  credentials.any fun written =>
    let (username, password) := splitPassword written
    username ≠ [] || password.isSome

/-- A written text of the credentials, decoded. -/
def credential (fault : AddressFault) : Option (List Char) → Except AddressFault (Option String)
  | none => .ok none
  | some [] => .ok none
  | some written =>
    match Text.ofBytes? (decoded written) with
    | some text => .ok (some text)
    | none => .error fault

/-- The revision of the protocol that a query asks for. -/
def protocolIn (query : List Char) : Except AddressFault Nat :=
  match ((queryPairs query).reverse.lookup "protocol".toList).map String.ofList with
  | none => .ok 2
  | some value =>
    if value = "2" ∨ value = "resp2" then .ok 2
    else if value = "3" ∨ value = "resp3" then .ok 3
    else .error (.badProtocol value)

/-- The port after a host, if a colon follows, and the rest. -/
def portAfter (host rest : List Char) : Except AddressFault (Option Nat × List Char) :=
  match rest with
  | ':' :: digits =>
    match host, splitPort? digits with
    | _ :: _, some found => .ok found
    | _, _ => .error .malformed
  | _ => .ok (none, rest)

/-- The address with the parts that are left when credentials, host and port were read. -/
def assembled (credentials : Option (List Char)) (host : List Char) (port : Option Nat)
    (rest : List Char) : Except AddressFault Address := do
  if host = [] then throw (if hasCredentials credentials then .malformed else .noHost)
  let path := rest.takeWhile fun character => character ≠ '?' ∧ character ≠ '#'
  let behind := rest.dropWhile fun character => character ≠ '?' ∧ character ≠ '#'
  let query := if behind.head? = some '?' then (behind.drop 1).takeWhile (· ≠ '#') else []
  match database? path with
  | none => throw .badDatabase
  | some database =>
    let (username, password) := splitPassword (credentials.getD [])
    let username ← credential .badUsername (some username)
    let password ← credential .badPassword password
    let protocol ← protocolIn query
    return { host := String.ofList host, port, database, username, password, protocol }

/-- The address that a host setting stands for. -/
def ofHost (setting : String) : Except AddressFault Address := do
  let written := setting.toList ++ ['/']
  let text := written.filter fun character =>
    !(character = '\t' || character = '\n' || character = '\x0d')
  let (credentials, rest) := splitCredentials text
  if credentials = some [] ∧ rest.head?.all endsAuthority then throw .malformed
  let (host, rest) := splitHost false rest
  if !isHost host then throw .malformed
  let (port, rest) ← portAfter host rest
  assembled credentials host port rest

end Address

end Bearer.Redis
