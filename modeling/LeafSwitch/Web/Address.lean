import LeafSwitch.Web.DomainName.Ascii
import LeafSwitch.Web.Host
import LeafSwitch.Number.Integer
import LeafSwitch.Text.Ascii
import LeafSwitch.Text.Lowercase

/-!
# Addresses

The address of a service has a scheme, an authority, a path, a query and a fragment, of which any
may be missing. Reading an address puts it into one form: characters that may not stand in a part
are written as percent signs and bytes, steps upwards in the path are taken, and the socket that a
scheme has anyway is left out.
-/

namespace LeafSwitch.Web

/-- An address in its one form. -/
structure Address where
  /-- The scheme, in small letters. -/
  scheme : String
  /-- What stands before the host: a name, and perhaps a password. -/
  user : String
  /-- The host. -/
  host : String
  /-- The socket, if it is not the usual one. -/
  socket : Option Int
  /-- The path. -/
  path : String
  /-- What follows a question mark. -/
  query : Option String
  /-- What follows a number sign. -/
  fragment : Option String
  deriving DecidableEq, Repr

/-- Why a text is no address. -/
inductive AddressError where
  /-- The text is too long. -/
  | tooLong
  /-- A part has become too long. -/
  | partTooLong (part : String)
  /-- A control character stands at a position. -/
  | control (c : Char) (position : Nat)
  /-- The host is none. -/
  | host (cause : HostError)
  /-- The socket is no number. -/
  | socket (text : String)
  /-- The path goes on where the authority ends. -/
  | unrooted
  /-- A path without scheme and authority begins with two slashes. -/
  | twoSlashes
  /-- A path without scheme and authority begins with a colon. -/
  | colon
  deriving DecidableEq, Repr

/-- The wording of a failure. -/
def AddressError.message : AddressError → String
  | .tooLong => "URL too long"
  | .partTooLong part => "URL component '" ++ part ++ "' too long"
  | .control c position =>
    "Invalid non-printable ASCII character in URL, " ++ Text.quoted (String.singleton c) ++
      " at position " ++ toString position ++ "."
  | .host cause => cause.message
  | .socket text => "Invalid port: " ++ Text.quoted text
  | .unrooted => "For absolute URLs, path must be empty or begin with '/'"
  | .twoSlashes => "Relative URLs cannot have a path starting with '//'"
  | .colon => "Relative URLs cannot have a path starting with ':'"

/-- Why a request cannot name the host of an address. -/
inductive NamingError where
  /-- The host stands for no name. -/
  | name (cause : DomainName.NameError)
  /-- The host is not in ASCII. -/
  | beyondAscii (run : Text.BeyondAscii)
  deriving DecidableEq, Repr

/-- The wording of a failure. -/
def NamingError.message : NamingError → String
  | .name cause => cause.message
  | .beyondAscii run => run.message

namespace Address

/-- The most characters of an address. -/
def maxLength : Nat := 65536

/-- Whether a character is an ASCII control. -/
def isControl (c : Char) : Bool :=
  c.toNat < 0x20 || c.toNat = 0x7F

/-! ### Characters that may stand in a part -/

/-- Whether a character is ASCII and can be seen. -/
def isGraphic (c : Char) : Bool :=
  0x20 < c.toNat && c.toNat < 0x7F

/-- Whether a character may stand in a query. -/
def inQuery (c : Char) : Bool :=
  isGraphic c && !(['"', '#', '<', '>'].contains c)

/-- Whether a character may stand in a fragment. -/
def inFragment (c : Char) : Bool :=
  isGraphic c && !(['"', '<', '>', '\x60'].contains c)

/-- Whether a character may stand in a path. -/
def inPath (c : Char) : Bool :=
  inQuery c && !(['?', '\x60', '\x7b', '\x7d'].contains c)

/-- Whether a character may stand before the host. -/
def inUser (c : Char) : Bool :=
  inPath c && !(['/', ';', '=', '@', '[', '\\', ']', '^', '|'].contains c)

/-- Whether a character may stand in a name of a host. -/
def inHost (c : Char) : Bool :=
  isGraphic c && !(['#', '/', ':', '<', '>', '?', '@', '[', ']', '^'].contains c)

/-- The bytes of a character behind percent signs. -/
def percent (c : Char) : List Char :=
  (String.singleton c).toUTF8.toList.flatMap fun byte =>
    '%' :: (Text.hexDigits 2 byte.toNat).map Char.toUpper

/-- A part in which only allowed characters stand as they are. -/
def escaped (allowed : Char → Bool) (cs : List Char) : String :=
  String.ofList (cs.flatMap fun c => if allowed c then [c] else percent c)

/-! ### The parts of a text -/

/-- The text before the first of some characters, and the text from there on. -/
def cut (stops : List Char) (cs : List Char) : List Char × List Char :=
  (cs.takeWhile fun c => !stops.contains c, cs.dropWhile fun c => !stops.contains c)

/-- The scheme and what follows its colon. A text that begins with a colon has an empty one, and
without a colon behind its first word there is none. -/
def takeScheme (cs : List Char) : List Char × List Char :=
  let inScheme (c : Char) := c.isAlphanum || c == '+' || c == '.' || c == '-'
  let word := cs.takeWhile inScheme
  let fits := word.isEmpty || ((word.head?.map Char.isAlpha).getD false)
  match fits, cs.dropWhile inScheme with
  | true, ':' :: rest => (word, rest)
  | _, _ => ([], cs)

/-- The authority behind two slashes, and what follows it. -/
def takeAuthority : List Char → List Char × List Char
  | '/' :: '/' :: rest => cut ['/', '?', '#'] rest
  | cs => ([], cs)

/-- What follows a mark, up to the first of some characters, where the text begins with the mark. -/
def takeBehind (mark : Char) (stops : List Char) (cs : List Char) :
    Option (List Char) × List Char :=
  match cs with
  | [] => (none, [])
  | c :: rest =>
    if c == mark then
      let (part, rest) := cut stops rest
      (some part, rest)
    else (none, cs)

/-- The text before the last at sign, and the text behind it. -/
def takeUser (authority : List Char) : List Char × List Char :=
  match authority.reverse.dropWhile (· != '@') with
  | [] => ([], authority)
  | _ :: before => (before.reverse, (authority.reverse.takeWhile (· != '@')).reverse)

/-- The host and the text of the socket: a host in brackets ends with the last bracket. -/
def takeHost (cs : List Char) : List Char × List Char :=
  let bracketed := (cs.reverse.dropWhile (· != ']')).reverse
  let host := if cs.head? = some '[' && !bracketed.isEmpty then bracketed
    else cs.takeWhile fun c => c != ':' && c != '@'
  match cs.drop host.length with
  | ':' :: socket => (host, socket)
  | socket => (host, socket)

/-! ### The parts in their one form -/

/-- A host in its one form, without brackets. -/
def readHost (cs : List Char) : Except HostError String :=
  let host := Text.ofChars cs
  if Host.isFourNumbers cs then
    if Host.isFourBytes cs then .ok host else .error (.numbers host)
  else if cs.head? = some '[' && cs.length > 1 && cs.getLast? = some ']' then
    let groups := (cs.drop 1).dropLast
    if Host.isGroups groups then .ok (Text.ofChars groups) else .error (.groups host)
  else if cs.all fun c => c.toNat < 0x80 then .ok (escaped inHost (cs.map Char.toLower))
  else
    match DomainName.asciiName? (Text.codesOf (Text.lowered host)) with
    | some name => .ok name
    | none => .error (.name host)

/-- The usual sockets of schemes. -/
def usualSockets : List (String × Int) :=
  [("ftp", 21), ("http", 80), ("https", 443), ("ws", 80), ("wss", 443)]

/-- A socket in its one form. -/
def readSocket (scheme : String) (cs : List Char) : Except AddressError (Option Int) :=
  if cs.isEmpty then .ok none
  else
    let text := Text.ofChars cs
    match Number.readInteger text with
    | .error _ => .error (.socket text)
    | .ok n => .ok (if usualSockets.lookup scheme = some n then none else some n)

/-- Take the steps of a path: a dot stays, and two dots leave the directory. -/
def steps : List (List Char) → List (List Char) → List (List Char)
  | taken, [] => taken.reverse
  | taken, step :: rest =>
    if step = ['.'] then steps taken rest
    else if step = ['.', '.'] then
      steps (if taken.isEmpty || taken = [[]] then taken else taken.drop 1) rest
    else steps (step :: taken) rest

/-- A path without steps upwards. -/
def settled (path : List Char) : List Char :=
  ['/'].intercalate (steps [] (Text.pieces (· == '/') path))

/-- Whether a path may follow what stands before it. -/
def checkPath (hasScheme hasAuthority : Bool) (path : List Char) : Except AddressError Unit :=
  if hasAuthority then
    if path.isEmpty || path.head? = some '/' then .ok () else .error .unrooted
  else if hasScheme then .ok ()
  else if ['/', '/'].isPrefixOf path then .error .twoSlashes
  else if path.head? = some ':' then .error .colon
  else .ok ()

/-- Whether an address names a scheme and a host. -/
def isAbsolute (a : Address) : Bool :=
  a.scheme != "" && a.host != ""

/-- Read an address. -/
def read (text : String) : Except AddressError Address := do
  let cs := Text.charsOf text
  if cs.length > maxLength then .error .tooLong
  match cs.find? isControl with
  | some c => .error (.control c (cs.takeWhile (· != c)).length)
  | none => pure ()
  let (scheme, rest) := takeScheme cs
  let (authority, rest) := takeAuthority rest
  let (path, rest) := cut ['?', '#'] rest
  let (query, rest) := takeBehind '?' ['#'] rest
  let (fragment, _) := takeBehind '#' [] rest
  let (user, rest) := takeUser authority
  let (host, socket) := takeHost rest
  let host ← (readHost host).mapError .host
  let socket ← readSocket (String.ofList scheme) socket
  let hasAuthority := !user.isEmpty || host != "" || socket.isSome
  checkPath (!scheme.isEmpty) hasAuthority path
  let path := if !scheme.isEmpty || hasAuthority then settled path else path
  return {
    scheme := String.ofList (scheme.map Char.toLower)
    user := escaped inUser user
    host
    socket
    path := escaped inPath path
    query := query.map (escaped inQuery)
    fragment := fragment.map (escaped inFragment) }

/-- The query with its mark. -/
def queryText (a : Address) : String :=
  (a.query.map ("?" ++ ·)).getD ""

/-- The host, in brackets where it holds colons, and the socket. -/
def hostText (a : Address) : String :=
  let host := if a.host.toList.contains ':' then "[" ++ a.host ++ "]" else a.host
  host ++ (a.socket.map fun n => ":" ++ toString n).getD ""

/-- An address as text. -/
def text (a : Address) : String :=
  let authority := (if a.user.isEmpty then "" else a.user ++ "@") ++ a.hostText
  (if a.scheme.isEmpty then "" else a.scheme ++ ":") ++
    (if authority.isEmpty then "" else "//" ++ authority) ++ a.path ++ a.queryText ++
    (a.fragment.map ("#" ++ ·)).getD ""

/-- What is left of an address that does not name scheme and host: a path from the root, and the
query. -/
def rooted (a : Address) : Except AddressError Address :=
  let path := "/" ++ String.ofList (a.path.toList.dropWhile (· == '/'))
  if path.length > maxLength then .error (.partTooLong "path")
  else if (a.query.getD "").length > maxLength then .error (.partTooLong "query")
  else .ok ⟨"", "", "", none, path, a.query, none⟩

/-- The address that a request goes to. -/
def target (text : String) : Except AddressError Address := do
  let a ← read text
  if a.isAbsolute then return a else a.rooted

/-- Check that a request can name the host of an address: what is written by differences must stand
for a name, and the host must be in ASCII, which a zone need not be. -/
def checkNaming (a : Address) : Except NamingError Unit := do
  if DomainName.writtenMark.isPrefixOf a.host.toList then
    let _ ← (DomainName.readName a.host).mapError .name
  match Text.beyondAscii? a.hostText with
  | some run => .error (.beyondAscii run)
  | none => .ok ()

end Address

end LeafSwitch.Web
