import LiterateLinks.Url.Host

/-!
# Telling URLs from paths

A location of a command map is a URL if it has a scheme and what follows the scheme is in order: an
authority for the common schemes, any text for the others, with an authority after `//`.  One letter
before a colon names a drive and no scheme.
-/

namespace LiterateLinks

namespace Url

/-- How what follows a scheme is read. -/
inductive SchemeKind where
  /-- Files; the host may be left out. -/
  | file
  /-- Schemes that need a host. -/
  | hosted
  /-- All others. -/
  | other
  deriving Repr, DecidableEq

/-- The kind of a scheme. -/
def SchemeKind.of (scheme : String) : SchemeKind :=
  if scheme = "file" then .file
  else if ["http", "https", "ws", "wss", "ftp"].contains scheme then .hosted
  else .other

/-- Divides a text into its scheme and what follows the colon. -/
def splitScheme (text : List Char) : Option (String × List Char) :=
  let scheme := text.takeWhile fun c => c.isAlphanum || c == '+' || c == '-' || c == '.'
  match text.drop scheme.length with
  | ':' :: rest =>
    if scheme.head?.any Char.isAlpha then some ((String.ofList scheme).toLower, rest) else none
  | _ => none

/-- Whether the character ends an authority.  Outside the common schemes a backslash does not. -/
def endsAuthority (kind : SchemeKind) (c : Char) : Bool :=
  c == '/' || c == '?' || c == '#' || (kind != .other && c == '\\')

/-- Whether what follows a host, from its colon on, is a number of 16 bits or nothing. -/
def isHostNumber (text : List Char) : Bool :=
  let digits := (text.drop 1).takeWhile fun c => !(c == '/' || c == '\\' || c == '?' || c == '#')
  (ofDigits? 10 0 digits).any (· < 0x10000)

/-- The host at the start of an authority: up to a colon that is not in brackets. -/
def takeHost : Bool → List Char → List Char
  | _, [] => []
  | inBrackets, c :: cs =>
    if c = ':' && !inBrackets then []
    else c :: takeHost (if c = '[' then true else if c = ']' then false else inBrackets) cs

/-- Whether the host of an authority, and the number after it, are in order.  `named` says that a
user stands before them. -/
def isNumberedHost (kind : SchemeKind) (named : Bool) (text : List Char) : Bool :=
  let host := takeHost false text
  let rest := text.drop host.length
  if host.isEmpty then kind == .other && rest.isEmpty && !named
  else
    (if kind == .other then isOpaqueHost host else isHost host) &&
      (rest.isEmpty || isHostNumber rest)

/-- Whether the text after `//` starts with an authority that is in order. -/
def isAuthority (kind : SchemeKind) (text : List Char) : Bool :=
  let authority := text.takeWhile fun c => !endsAuthority kind c
  if authority.contains '@' then
    let reversed := authority.reverse
    let user := ((reversed.dropWhile (· != '@')).drop 1).reverse
    let rest := (reversed.takeWhile (· != '@')).reverse
    if user.isEmpty && rest.isEmpty && authority.length < text.length then false
    else isNumberedHost kind (!user.isEmpty && user != [':']) rest
  else isNumberedHost kind false authority

/-- Whether the character is a slash of either kind. -/
def isSlash (c : Char) : Bool :=
  c == '/' || c == '\\'

/-- Whether the text is a letter and a colon or a bar. -/
def isDrive (text : List Char) : Bool :=
  match text with
  | [c, mark] => c.isAlpha && (mark == ':' || mark == '|')
  | _ => false

/-- Whether the text after `file:` is in order. -/
def isFileRest (text : List Char) : Bool :=
  match text with
  | a :: b :: rest =>
    if isSlash a && isSlash b then
      let host := rest.takeWhile fun c => !endsAuthority .file c
      host.isEmpty || isDrive host || isHost host
    else true
  | _ => true

/-- Whether what follows a scheme is in order. -/
def isRest (scheme : String) (text : List Char) : Bool :=
  match SchemeKind.of scheme with
  | .file => isFileRest text
  | .hosted => isAuthority .hosted (text.dropWhile isSlash)
  | .other =>
    match text with
    | '/' :: '/' :: rest => isAuthority .other rest
    | _ => true

/-- The text of a location as URLs are read: without blanks and controls at its ends, and without
tabs and line ends. -/
def strip (text : List Char) : List Char :=
  let isBlank (c : Char) : Bool := c.toNat ≤ 0x20
  ((text.dropWhile isBlank).reverse.dropWhile isBlank).reverse.filter fun c =>
    !(c == '\t' || c == '\n' || c == '\r')

end Url

/-- Whether a location is a URL. -/
def isUrl (location : String) : Bool :=
  match Url.splitScheme (Url.strip location.toList) with
  | some (scheme, rest) => 1 < scheme.length && Url.isRest scheme rest
  | none => false

end LiterateLinks
