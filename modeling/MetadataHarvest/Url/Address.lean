import MetadataHarvest.Text.Blank
import MetadataHarvest.Url.Host

/-!
# Absolute addresses

An address begins with a scheme. What the scheme is decides whether a host must follow:
for the schemes of the web it must, for files it may, and for other schemes it may when
two slashes stand before it. Paths, queries and fragments are never wrong.
-/

namespace MetadataHarvest.Url

open MetadataHarvest.Number MetadataHarvest.Text

inductive SchemeKind where
  | web
  | file
  | other
  deriving DecidableEq

/-- What a scheme in lower case is. -/
def SchemeKind.ofScheme (scheme : String) : SchemeKind :=
  if ["http", "https", "ws", "wss", "ftp"].contains scheme then web
  else if scheme = "file" then file
  else other

/-- Whether a character ends the host and what comes with it. -/
def SchemeKind.endsAuthority (kind : SchemeKind) (c : Char) : Bool :=
  c == '/' || c == '?' || c == '#' || (c == '\\' && kind != .other)

/-- Splits off a scheme, in lower case, and the colon after it. -/
def splitScheme? (cs : List Char) : Option (String × List Char) :=
  let scheme := cs.takeWhile fun c => c.isAlphanum || c == '+' || c == '-' || c == '.'
  match scheme, cs.drop scheme.length with
  | first :: _, ':' :: rest =>
    if first.isAlpha then some (String.ofList (scheme.map Char.toLower), rest) else none
  | _, _ => none

/-- What precedes the last at sign, if there is one, and what follows it. -/
def splitUser (cs : List Char) : Option (List Char) × List Char :=
  if cs.contains '@' then
    (some ((cs.reverse.dropWhile (· ≠ '@')).drop 1).reverse,
      (cs.reverse.takeWhile (· ≠ '@')).reverse)
  else (none, cs)

/-- The characters before the first colon outside of brackets; `bracket` says whether a
bracket is open. -/
def hostText (bracket : Bool) : List Char → List Char
  | [] => []
  | c :: cs =>
    if c = ':' && !bracket then []
    else c :: hostText (if c = '[' then true else if c = ']' then false else bracket) cs

/-- Whether a port is missing, empty or a number of 16 bits. -/
def isPort : List Char → Bool
  | ':' :: cs => cs.all isDigit && ofDigits cs < Nat.pow 2 16
  | _ => true

/-- The host that an address names after two slashes, up to where its path begins. -/
def hostOf (kind : SchemeKind) (authority : List Char) : Except Fault Host := do
  let (user, rest) := splitUser authority
  let text := hostText false rest
  let port := rest.drop text.length
  if kind = .web && text.isEmpty then throw .emptyHost
  let host ← if kind = .web then Host.ofDomain text else Host.ofPlain text
  if host = .empty && !port.isEmpty then throw .emptyHost
  if !isPort (port.takeWhile (· ≠ '\\')) then throw .port
  if host = .empty && user.any fun u => !u.isEmpty && u != [':'] then throw .emptyHost
  return host

/-- Whether `cs` is the letter of a drive. -/
def isDriveLetter : List Char → Bool
  | [letter, mark] => letter.isAlpha && (mark == ':' || mark == '|')
  | _ => false

/-- The host of a file's address. -/
def fileHost (cs : List Char) : Except Fault Host :=
  match cs.take 2 with
  | [a, b] =>
    let text := (cs.drop 2).takeWhile (!SchemeKind.file.endsAuthority ·)
    if (a == '/' || a == '\\') && (b == '/' || b == '\\') && !text.isEmpty
        && !isDriveLetter text then
      Host.ofDomain text
    else .ok .empty
  | _ => .ok .empty

/-- The host of an address after its scheme. -/
def hostAfterScheme (kind : SchemeKind) (cs : List Char) : Except Fault Host :=
  match kind, cs with
  | .web, _ =>
    hostOf .web ((cs.dropWhile fun c => c == '/' || c == '\\').takeWhile
      (!SchemeKind.web.endsAuthority ·))
  | .file, _ => fileHost cs
  | .other, '/' :: '/' :: rest =>
    let authority := rest.takeWhile (!SchemeKind.other.endsAuthority ·)
    if authority == ['@'] && authority.length < rest.length then .error .emptyHost
    else hostOf .other authority
  | .other, _ => .ok .empty

/-- An absolute address as far as it can be wrong: its scheme and its host. -/
structure Address where
  scheme : String
  host : Host
  deriving DecidableEq

/-- A text without the characters that an address is read without: blanks, control
characters around it, and line breaks and tabs within. -/
def cleaned (s : String) : List Char :=
  (trimWhile (fun c => c.toNat ≤ 0x20) (trim s.toList)).filter fun c =>
    c != '\t' && c != '\n' && c != '\r'

/-- The address that a text is. -/
def Address.read (s : String) : Except Fault Address :=
  match splitScheme? (cleaned s) with
  | none => .error .relative
  | some (scheme, rest) =>
    (hostAfterScheme (.ofScheme scheme) rest).map fun host => ⟨scheme, host⟩

/-- Whether a text is an address. -/
def isAddress (s : String) : Bool := (Address.read s).isOk

end MetadataHarvest.Url
