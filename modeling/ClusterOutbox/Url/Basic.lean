import ClusterOutbox.Text.Digits

namespace ClusterOutbox

/-- The path of an address: segments between slashes, or a text without structure. -/
inductive UrlPath
  | rooted (text : List Char)
  | plain (text : List Char)
deriving DecidableEq

/-- An address on the web, its parts as they are written. -/
structure Url where
  scheme : List Char
  username : List Char
  /-- Empty where there is none. -/
  password : List Char
  /-- The host, where there is an authority; it may be empty. -/
  host : Option (List Char)
  /-- The port, unless it is the usual one of the scheme. -/
  port : Option Nat
  /-- Whether a mark keeps the path from being taken for an authority. -/
  apart : Bool
  path : UrlPath
  query : Option (List Char)
  fragment : Option (List Char)
deriving DecidableEq

namespace UrlPath

def text : UrlPath → List Char
  | rooted t => t
  | plain t => t

end UrlPath

namespace Url

/-- Schemes whose addresses all have a host, with the port that each of them uses. -/
def hostSchemes : List (String × Nat) :=
  [("http", 80), ("https", 443), ("ws", 80), ("wss", 443), ("ftp", 21)]

def usualPort? (scheme : List Char) : Option Nat := hostSchemes.lookup (String.ofList scheme)

def isFile (scheme : List Char) : Bool := scheme == ['f', 'i', 'l', 'e']

/-- Whether a scheme follows the rules of the web: its hosts are domains, and a backslash separates
segments as a slash does. -/
def isSpecial (scheme : List Char) : Bool := isFile scheme || (usualPort? scheme).isSome

/-- The account of an address before its host. -/
def accountText (u : Url) : List Char :=
  if u.username = [] ∧ u.password = [] then []
  else u.username ++ (if u.password = [] then [] else ':' :: u.password) ++ ['@']

/-- What stands between the scheme and the path. -/
def authorityText (u : Url) : List Char :=
  match u.host with
  | some host =>
    ['/', '/'] ++ u.accountText ++ host ++ match u.port with
      | some port => ':' :: decimalDigits port
      | none => []
  | none => if u.apart then ['/', '.'] else []

/-- An address without its query and fragment. -/
def stemText (u : Url) : List Char := u.scheme ++ ':' :: (u.authorityText ++ u.path.text)

def markedText (mark : Char) : Option (List Char) → List Char
  | some text => mark :: text
  | none => []

def text (u : Url) : String :=
  String.ofList (u.stemText ++ markedText '?' u.query ++ markedText '#' u.fragment)

def withoutQuery (u : Url) : Url := { u with query := none }

end Url

end ClusterOutbox
