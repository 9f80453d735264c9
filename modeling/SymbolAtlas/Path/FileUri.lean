import SymbolAtlas.Path
import SymbolAtlas.Path.Host

/-!
# File URIs

A URI is read as the URL standard reads it: blanks around it do not count, nor do tabs and line
ends within it, the scheme is written in either case, a backslash separates like a slash, and `.`
and `..` (percent-encoded or not) are resolved, though nothing removes a drive letter. The path of
a local `file:` URI is percent-decoded, so its bytes need not be UTF-8.
-/

namespace SymbolAtlas

/-- Why a text has no local path. -/
inductive UriError where
  | noBase
  | badHost (why : HostError)
  | badPort
  | notFile
  | noLocalPath
  deriving DecidableEq, Repr

def UriError.message : UriError → String
  | noBase => "relative URL without a base"
  | badHost why => why.message
  | badPort => "invalid port number"
  | notFile => "not a file URI"
  | noLocalPath => "no local path"

namespace FileUri

def isSlash (c : Char) : Bool := c = '/' || c = '\\'

/-! ## What does not count -/

def isBreak (c : Char) : Bool := c = '\t' || c = '\n' || c = '\r'

def trimmed (uri : String) : List Char :=
  let blank := fun c : Char => c.toNat ≤ 32
  ((uri.toList.dropWhile blank).reverse.dropWhile blank).reverse

def unbroken (cs : List Char) : List Char := cs.filter fun c => !isBreak c

/-- The first character that counts, and what follows it. -/
def next? (cs : List Char) : Option (Char × List Char) :=
  match cs.dropWhile isBreak with
  | c :: rest => some (c, rest)
  | [] => none

/-- What follows a slash. -/
def afterSlash? (cs : List Char) : Option (List Char) :=
  match next? cs with
  | some (c, rest) => if isSlash c then some rest else none
  | none => none

def isSchemeChar (c : Char) : Bool := c.isAlphanum || c = '+' || c = '-' || c = '.'

/-- The scheme in lower case, and what follows its colon. -/
def scheme? (cs : List Char) : Option (String × List Char) :=
  let within := fun c => isSchemeChar c || isBreak c
  match cs.dropWhile within with
  | ':' :: rest =>
    if cs.head?.any Char.isAlpha then
      some (String.ofList ((unbroken (cs.takeWhile within)).map Char.toLower), rest)
    else none
  | _ => none

/-- Bytes of a path segment that are written as they are: printable ASCII without blank, quotation
mark, number and percent sign, angle brackets, question mark, backslash, backquote and braces. -/
def isPlain (b : UInt8) : Bool :=
  32 < b && b < 127 && !("\"#%<>?\\`\x7b\x7d/".toList.map fun c => UInt8.ofNat c.toNat).contains b

/-! ## Paths of file URIs -/

/-- The segments between slashes of either kind. -/
def segments : List Char → List (List Char) := List.splitOnP isSlash

/-- A segment with its encoded dots decoded. -/
def plainDots : List Char → List Char
  | '%' :: '2' :: 'e' :: cs => '.' :: plainDots cs
  | '%' :: '2' :: 'E' :: cs => '.' :: plainDots cs
  | c :: cs => c :: plainDots cs
  | [] => []

def isHere (s : List Char) : Bool := plainDots s = ['.']

def isUp (s : List Char) : Bool := plainDots s = ['.', '.']

def isDrive : List Char → Bool
  | [c, d] => c.isAlpha && (d = ':' || d = '|')
  | _ => false

/-- A drive letter with its colon that a break parts from the rest of its segment. -/
def brokenDrive? (s : List Char) : Option (List Char × List Char) := do
  let (c, s) ← next? s
  let (d, s) ← next? s
  let rest := unbroken s
  if c.isAlpha && d = ':' && s.head?.any isBreak && !rest.isEmpty then some ([c, d], rest) else none

/-- Leave the last segment, unless it is a drive letter. -/
def shorten (path : List (List Char)) : List (List Char) :=
  if path.getLast?.any isDrive then path else path.dropLast

/-- The path so far, and whether a drive letter began it. -/
structure Walk where
  path : List (List Char)
  drive : Bool

/-- Follow one segment; the last one leaves an empty segment where it has no name of its own. -/
def walk (w : Walk) (s : List Char) (last : Bool) : Walk :=
  let ending := if last then [[]] else []
  if isUp s then { w with path := shorten w.path ++ ending }
  else if isHere s then { w with path := w.path ++ ending }
  else if w.path.isEmpty && isDrive s then ⟨[s.take 1 ++ [':']], true⟩
  else { w with path := w.path ++ [s] }

/-- Follow a segment as it is written; at the root, a broken drive letter is a name of its own. -/
def step (w : Walk) (s : List Char) (last : Bool) : Walk :=
  match w.path, brokenDrive? s with
  | [], some (letter, rest) => { w with path := [letter, rest] }
  | _, _ => walk w (unbroken s) last

def walkAll (w : Walk) : List (List Char) → Walk
  | [] => w
  | [s] => step w s true
  | s :: ss => walkAll (step w s false) ss

/-- Resolve what follows the host from `path` on; leading empty segments do not count. -/
def resolve (path : List (List Char)) (cs : List Char) : Walk :=
  let body := cs.takeWhile fun c => c ≠ '?' && c ≠ '#'
  let w := walkAll ⟨path, false⟩ (segments ((afterSlash? body).getD body))
  { w with path := w.path.dropWhile (·.isEmpty) }

/-- The bytes of resolved segments; a path that ends like a drive letter gets a slash. -/
def pathBytes (path : List (List Char)) : Path :=
  let names := if path.isEmpty then [[]] else path
  let bytes := names.flatMap fun s => Path.slash :: Percent.decode (Text.utf8 (String.ofList s))
  match bytes.reverse with
  | c :: d :: _ :: _ =>
    if (c = 58 || c = 124) && (Char.ofNat d.toNat).isAlpha then bytes ++ [Path.slash] else bytes
  | _ => bytes

/-- The path of a URI with two slashes after its scheme. Where the host is left out or this
machine, an empty segment comes before the path, so a drive letter does not begin it. -/
def pathOnHost (cs : List Char) : Except UriError Path :=
  let text := cs.takeWhile fun c => !isSlash c && c ≠ '?' && c ≠ '#'
  let rest := cs.drop text.length
  let name := unbroken text
  if name.isEmpty then .ok (pathBytes (resolve [[]] rest).path)
  else if isDrive name then .ok (pathBytes (resolve [] cs).path)
  else
    match Host.parse name with
    | .error why => .error (.badHost why)
    | .ok host =>
      if host.isLocal then .ok (pathBytes (resolve [[]] rest).path)
      else
        let w := resolve [] rest
        if w.drive then .ok (pathBytes w.path) else .error .noLocalPath

/-- The local path of what follows `file:`. -/
def localPath (cs : List Char) : Except UriError Path :=
  match (afterSlash? cs).bind afterSlash? with
  | some rest => pathOnHost rest
  | none => .ok (pathBytes (resolve [] cs).path)

/-! ## Other schemes -/

/-- Schemes whose URLs must have a host. -/
def hosted : List String := ["http", "https", "ws", "wss", "ftp"]

/-- The host before a port. -/
def beforePort : List Char → List Char
  | '[' :: cs =>
    let address := cs.takeWhile (· ≠ ']')
    '[' :: address ++ (cs.drop address.length).takeWhile (· ≠ ':')
  | cs => cs.takeWhile (· ≠ ':')

/-- A port after its colon, if there is one; a backslash ends it. -/
def isPort (cs : List Char) : Bool :=
  (Host.numeral? 10 (cs.takeWhile (· ≠ '\\'))).any (· < UInt16.size)

/-- What is wrong with a URL of another scheme, given what follows its leading slashes. A host may
be left out, unless the scheme asks for one or there is a user or a port. -/
def otherAuthority (special : Bool) (cs : List Char) : UriError :=
  let isEnd := fun c : Char => c = '/' || c = '?' || c = '#' || (special && c = '\\')
  let authority := cs.takeWhile fun c => !isEnd c
  let tail := cs.drop authority.length
  let afterUser := (authority.reverse.takeWhile (· ≠ '@')).reverse
  let user := authority.take (authority.length - afterUser.length)
  let host := beforePort afterUser
  let port := afterUser.drop host.length
  if host.isEmpty then
    let unnamed := user.isEmpty || (user = ['@'] && tail.isEmpty) || user = [':', '@']
    if special || !port.isEmpty || !unnamed then .badHost .empty else .notFile
  else
    match if special then Host.parse host else Host.parseVerbatim host with
    | .ok _ => if isPort (port.drop 1) then .notFile else .badPort
    | .error why => .badHost why

def otherScheme (scheme : String) (cs : List Char) : UriError :=
  if hosted.contains scheme then otherAuthority true (cs.dropWhile isSlash)
  else
    match cs with
    | '/' :: '/' :: rest => otherAuthority false rest
    | _ => .notFile

/-- The absolute path a URI stands for. -/
def path (uri : String) : Except UriError Path :=
  match scheme? (trimmed uri) with
  | none => .error .noBase
  | some (scheme, rest) =>
    if scheme = "file" then localPath rest else .error (otherScheme scheme (unbroken rest))

/-- The URI of an absolute path. -/
def ofPath? (p : Path) : Option String :=
  if p.isAbsolute then
    let names := (p.components.drop 1).map Path.Component.bytes
    let bytes :=
      if names.isEmpty then [Path.slash]
      else names.flatMap fun n => Path.slash :: Percent.encode isPlain n
    some ("file://" ++ Text.lossy bytes)
  else none

end FileUri

end SymbolAtlas
