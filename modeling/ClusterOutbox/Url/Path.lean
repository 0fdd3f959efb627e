import ClusterOutbox.Text.Split
import ClusterOutbox.Url.Basic
import ClusterOutbox.Url.Percent

namespace ClusterOutbox.Url

def isAsciiLetter (c : Char) : Bool := ('a' ≤ c && c ≤ 'z') || ('A' ≤ c && c ≤ 'Z')

/-- The characters that a reader of addresses passes over: tabs and line ends. -/
def isBreak (c : Char) : Bool := c == '\t' || c == '\n' || c == '\r'

def withoutBreaks (cs : List Char) : List Char := cs.filter fun c => !isBreak c

/-- Whether a character separates segments. -/
def isSlash (special : Bool) (c : Char) : Bool := c == '/' || (special && c == '\\')

def dotCodes : List (List Char) := [['.'], ['%', '2', 'e'], ['%', '2', 'E']]

/-- Whether a segment stands for the one it is in. -/
def isSingleDot (p : List Char) : Bool := dotCodes.contains p

/-- Whether a segment stands for the one before. -/
def isDoubleDot (p : List Char) : Bool :=
  dotCodes.any fun a => dotCodes.any fun b => p == a ++ b

/-- Whether a segment names a drive: a letter, and a colon or a bar. -/
def isDrive : List Char → Bool
  | [c, mark] => isAsciiLetter c && (mark == ':' || mark == '|')
  | _ => false

/-- Whether a segment begins as a drive that ends there or at a mark. -/
def beginsWithDrive : List Char → Bool
  | c :: mark :: rest => isDrive [c, mark] && match rest with
    | [] => true
    | d :: _ => d == '/' || d == '\\' || d == '?' || d == '#'
  | _ => false

/-- A drive, and the name that a break alone keeps from it. -/
def brokenDrive? : List Char → List Char → Option (List Char × List Char)
  | _, [] => none
  | drive, c :: rest =>
    if !isBreak c then brokenDrive? (drive ++ [c]) rest
    else if isDrive drive && drive.drop 1 == [':'] && withoutBreaks rest != [] then
      some (drive, withoutBreaks rest)
    else brokenDrive? drive rest

/-- A path being followed. -/
structure Walk where
  /-- The segments entered, the innermost first. -/
  segments : List (List Char)
  /-- Whether the way led into a drive. -/
  drive : Bool

namespace Walk

/-- A walk from the first slash of a path. -/
def atRoot : Walk := ⟨[[]], false⟩

/-- A walk to which the first slash is still to come. -/
def beforeRoot : Walk := ⟨[], false⟩

/-- The path to what is inside the innermost segment. -/
def insideText (w : Walk) : List Char := w.segments.reverse.flatMap fun p => p ++ ['/']

/-- The path to the innermost segment. -/
def text (w : Walk) : List Char := ['/'].intercalate w.segments.reverse

/-- Leaves the innermost segment, but never a drive nor the root. -/
def leave (w : Walk) : Walk :=
  match w.segments with
  | segment :: outer :: rest =>
    if beginsWithDrive segment then w else { w with segments := outer :: rest }
  | _ => w

/-- Enters a segment. In a file, directly under the root, a drive is written with a colon, and a
break after a drive counts as a slash. -/
def enter (file : Bool) (w : Walk) (part : List Char) : Walk :=
  let coded := Percent.encode Percent.inPath (withoutBreaks part)
  if file && w.segments == [[]] then
    if isDrive coded then ⟨(coded.take 1 ++ [':']) :: w.segments, true⟩
    else match brokenDrive? [] part with
      | some (drive, name) =>
        { w with segments := Percent.encode Percent.inPath name :: drive :: w.segments }
      | none => { w with segments := coded :: w.segments }
  else { w with segments := coded :: w.segments }

/-- Follows the parts between slashes: the path they lead to, and whether they led into a drive. -/
def follow (file : Bool) (w : Walk) : List (List Char) → List Char × Bool
  | [] => (w.insideText, w.drive)
  | part :: rest =>
    if isDoubleDot (withoutBreaks part) then follow file w.leave rest
    else if isSingleDot (withoutBreaks part) then follow file w rest
    else
      let w := w.enter file part
      if rest.isEmpty then (w.text, w.drive) else follow file w rest

end Walk

/-- Follows a path from where a walk is: the text of the path, and whether it led into a drive. The
path of a file begins with one slash. -/
def followPath (scheme : List Char) (w : Walk) (cs : List Char) : List Char × Bool :=
  let (text, drive) :=
    w.follow (isFile scheme) (splitWhere (isSlash (isSpecial scheme)) cs)
  (if isFile scheme then '/' :: text.dropWhile (· = '/') else text, drive)

/-- The path of an address that may have a host; `bare` says that nothing but slashes stands before
it. Only a scheme without hosts does without a path. -/
def pathAfter (scheme : List Char) (bare : Bool) (cs : List Char) : List Char × Bool :=
  if isSpecial scheme then
    if bare then followPath scheme .beforeRoot cs
    else followPath scheme .atRoot (match cs with
      | c :: rest => if isSlash true c then rest else cs
      | [] => [])
  else match cs with
    | [] => ([], false)
    | '/' :: _ => followPath scheme .beforeRoot cs
    | cs => followPath scheme .atRoot cs

end ClusterOutbox.Url
