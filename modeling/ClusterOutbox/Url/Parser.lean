import ClusterOutbox.Url.Host
import ClusterOutbox.Url.Path

namespace ClusterOutbox.Url

/-- Drops blanks and controls at both ends. -/
def trimEnds (cs : List Char) : List Char :=
  let outer := fun (c : Char) => c.toNat ≤ 0x20
  ((cs.dropWhile outer).reverse.dropWhile outer).reverse

/-- Splits off a scheme in lower case: a letter, then letters, digits and a few marks, up to a
colon. -/
def splitScheme? (cs : List Char) : Option (List Char × List Char) :=
  let scheme := cs.takeWhile fun c =>
    isBreak c || isAsciiLetter c || isDecimalDigit c || c == '+' || c == '-' || c == '.'
  match withoutBreaks scheme, cs.drop scheme.length with
  | first :: name, ':' :: rest =>
    if isAsciiLetter first then some ((first :: name).map Char.toLower, rest) else none
  | _, _ => none

/-- Whether a character ends what may stand before a path. -/
def endsAuthority (special : Bool) (c : Char) : Bool :=
  isSlash special c || c == '?' || c == '#'

/-- Reads slashes up to a number of them. -/
def splitSlashes : Nat → List Char → Nat × List Char
  | 0, cs => (0, cs)
  | most + 1, cs =>
    match cs.dropWhile isBreak with
    | c :: rest =>
      if isSlash true c then
        let (count, rest) := splitSlashes most rest
        (count + 1, rest)
      else (0, cs)
    | [] => (0, cs)

/-- Splits a text where its query or fragment begins. -/
def splitPath (cs : List Char) : List Char × List Char :=
  let path := cs.takeWhile fun c => c != '?' && c != '#'
  (path, cs.drop path.length)

/-- Adds a query and a fragment. -/
def withTail (u : Url) (cs : List Char) : Url :=
  let (query, rest) := match cs with
    | '?' :: rest =>
      let q := rest.takeWhile (· != '#')
      (some (Percent.encode (Percent.inQuery (isSpecial u.scheme)) q), rest.drop q.length)
    | cs => (none, cs)
  let fragment := match rest with
    | '#' :: f => some (Percent.encode Percent.inFragment f)
    | _ => none
  { u with query, fragment }

/-- Splits the account off an authority at its last at-sign: the name, the password, and the rest. An
at-sign alone is not an authority. -/
def splitAccount? (special : Bool) (cs : List Char) :
    Option ((List Char × List Char) × List Char) :=
  let authority := cs.takeWhile fun c => !endsAuthority special c
  let after := (authority.reverse.takeWhile (· != '@')).reverse
  if after.length = authority.length then some (([], []), cs)
  else
    let account := authority.take (authority.length - after.length - 1)
    let name := account.takeWhile (· != ':')
    let password := account.drop (name.length + 1)
    let rest := cs.drop (account.length + 1)
    if account = [] ∧ after = [] ∧ rest ≠ [] then none
    else
      some ((Percent.encode Percent.inUserInfo name, Percent.encode Percent.inUserInfo password), rest)

/-- The characters of a host: up to a colon outside brackets or the end of the authority. -/
def hostLength (special : Bool) (bracket : Bool) : List Char → Nat
  | [] => 0
  | c :: rest =>
    if (c = ':' ∧ !bracket) ∨ endsAuthority special c then 0
    else hostLength special (c = '[' || (bracket && c != ']')) rest + 1

/-- Reads a port after a colon; the usual one of the scheme is dropped. -/
def readPort? (scheme cs : List Char) : Option (Option Nat × List Char) :=
  match cs with
  | ':' :: cs =>
    let ds := cs.takeWhile isDecimalDigit
    let rest := cs.drop ds.length
    let closed := match rest with
      | [] => true
      | c :: _ => c == '/' || c == '\\' || c == '?' || c == '#'
    let port := digitsValue ds
    if 65535 < port ∨ !closed then none
    else some (if ds = [] ∨ usualPort? scheme = some port then none else some port, rest)
  | cs => some (none, cs)

/-- Reads an address after the two slashes of its authority. -/
def readAuthority? (scheme cs : List Char) : Option Url := do
  let special := isSpecial scheme
  let ((username, password), rest) ← splitAccount? special cs
  let hostText := rest.take (hostLength special false rest)
  let rest := rest.drop hostText.length
  let named := username ≠ [] ∨ password ≠ []
  if hostText = [] ∧ (special ∨ rest.head? = some ':' ∨ named) then none
  else
    let host ← if special then Host.ofDomain? hostText else Host.ofOpaque? hostText
    let (port, rest) ← readPort? scheme rest
    let (path, tail) := splitPath rest
    some (withTail {
      scheme, username, password
      host := some host
      port
      apart := false
      path := .rooted (pathAfter scheme false path).1
      query := none
      fragment := none } tail)

/-- The address of a file on a host. -/
def ofFile (scheme host path tail : List Char) : Url :=
  withTail ⟨scheme, [], [], some host, none, false, .rooted path, none, none⟩ (withoutBreaks tail)

/-- Reads the address of a file after its scheme. The host of this machine is left out, and so is
every host before a drive. -/
def readFile? (scheme cs : List Char) : Option Url := do
  let (slashes, rest) := splitSlashes 2 cs
  if slashes = 2 then
    let hostText := rest.takeWhile fun c => !endsAuthority true c
    let bareHost := withoutBreaks hostText
    let host ← if bareHost = [] ∨ isDrive bareHost then some [] else Host.ofDomain? bareHost
    let (path, tail) := splitPath (if isDrive bareHost then rest else rest.drop hostText.length)
    if host = [] ∨ host = "localhost".toList then
      some (ofFile scheme [] (followPath scheme .atRoot path).1 tail)
    else
      let (path, drive) := pathAfter scheme false path
      some (ofFile scheme (if drive then [] else host) path tail)
  else
    let (path, tail) := splitPath rest
    some (ofFile scheme [] (followPath scheme .atRoot path).1 tail)

/-- Reads an address; it must have a scheme. -/
def parse? (s : String) : Option Url := do
  let (scheme, rest) ← splitScheme? (trimEnds s.toList)
  if isFile scheme then readFile? scheme rest
  else
    let rest := withoutBreaks rest
    if isSpecial scheme then readAuthority? scheme (rest.dropWhile (isSlash true))
    else match rest with
      | '/' :: '/' :: rest => readAuthority? scheme rest
      | '/' :: rest =>
        let (text, tail) := splitPath rest
        let path := (followPath scheme .atRoot text).1
        some (withTail
          ⟨scheme, [], [], none, none, path.take 2 = ['/', '/'], .rooted path, none, none⟩ tail)
      | rest =>
        let (path, tail) := splitPath rest
        some (withTail
          ⟨scheme, [], [], none, none, false, .plain (Percent.encode Percent.isControl path),
            none, none⟩ tail)

/-- Replaces the path by another one, read in its turn. -/
def withPath (u : Url) (cs : List Char) : Url :=
  match u.path with
  | .plain _ =>
    let text := match cs with
      | '/' :: rest => ['%', '2', 'F'] ++ Percent.encode Percent.isControl rest
      | cs => Percent.encode Percent.isControl cs
    { u with path := .plain text }
  | .rooted _ => { u with path := .rooted (pathAfter u.scheme (u.host == some []) cs).1 }

end ClusterOutbox.Url
