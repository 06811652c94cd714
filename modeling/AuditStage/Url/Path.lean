import AuditStage.Text.Basic
import AuditStage.Url.Percent

/-! The path of a URL: its segments, once dots are followed and drive letters are put right. -/

namespace AuditStage.Url

/-- Whether a character is a control character or lies beyond ASCII. -/
def isControl (c : Char) : Bool :=
  c.toNat < 0x20 || 0x7E < c.toNat

/-- Whether a character is escaped in a fragment. -/
def escapedInFragment (c : Char) : Bool :=
  isControl c || " \"<>`".toList.contains c

/-- Whether a character is escaped in a path. -/
def escapedInPath (c : Char) : Bool :=
  escapedInFragment c || "#?\x7b\x7d".toList.contains c

/-- Whether a character parts the segments of a path. -/
def isSlash (special : Bool) (c : Char) : Bool :=
  c == '/' || (special && c == '\\')

/-- Whether a segment means the directory itself. -/
def isDot (segment : List Char) : Bool :=
  [".", "%2e"].contains (String.ofList (segment.map Char.toLower))

/-- Whether a segment means the directory above. -/
def isDoubleDot (segment : List Char) : Bool :=
  ["..", ".%2e", "%2e.", "%2e%2e"].contains (String.ofList (segment.map Char.toLower))

/-- Whether a segment names a drive: a letter with a colon, or with a bar in its place. -/
def isDrive : List Char → Bool
  | [letter, mark] => letter.isAlpha && (mark == ':' || mark == '|')
  | _ => false

/-- The segments without the last one; a drive is never left. -/
def leaveLast (taken : List (List Char)) : List (List Char) :=
  if taken.getLast?.any isDrive then taken else taken.dropLast

/-- The segments of a path once dots have been followed, after those taken so far. -/
def settleSegments (taken : List (List Char)) : List (List Char) → List (List Char)
  | [] => taken
  | segment :: segments =>
    let last := if segments.isEmpty then [[]] else []
    if isDoubleDot segment then settleSegments (leaveLast taken ++ last) segments
    else if isDot segment then settleSegments (taken ++ last) segments
    else settleSegments (taken ++ [percentEncode escapedInPath segment]) segments

/-- The segments of a file's path, and whether it started with a drive somewhere on the way. -/
def settleFile (taken : List (List Char)) (drive : Bool) :
    List (List Char) → List (List Char) × Bool
  | [] => (taken, drive)
  | segment :: segments =>
    let last := if segments.isEmpty then [[]] else []
    let plain := percentEncode escapedInPath segment
    if isDoubleDot segment then settleFile (leaveLast taken ++ last) drive segments
    else if isDot segment then settleFile (taken ++ last) drive segments
    else if !taken.isEmpty then settleFile (taken ++ [plain]) drive segments
    else if isDrive segment then settleFile [segment.take 1 ++ [':']] true segments
    -- What follows a drive at once is a segment of its own.
    else if isDrive (segment.take 2) && segment[1]? == some ':' then
      settleFile [segment.take 2, percentEncode escapedInPath (segment.drop 2)] drive segments
    else settleFile [plain] drive segments

/-- The segments between slashes. -/
def segmentsOf (special : Bool) (cs : List Char) : List (List Char) :=
  (cs.map fun c => if isSlash special c then '/' else c).splitOn '/'

/-- The text of a path from the root. -/
def pathText (segments : List (List Char)) : String :=
  String.ofList (segments.flatMap ('/' :: ·))

/-- A text without its first slash. -/
def dropSlash (special : Bool) (cs : List Char) : List Char :=
  if cs.head?.any (isSlash special) then cs.tail else cs

/-- A path from the root, read from what follows the root's slash. -/
def parsePath (special : Bool) (cs : List Char) : String :=
  pathText (settleSegments [] (segmentsOf special cs))

/-- The path of a file, read from what follows the root's slash, and whether it started with a
drive. -/
def parseFilePath (cs : List Char) : String × Bool :=
  let (segments, drive) := settleFile [] false (segmentsOf true cs)
  -- Empty segments in front add nothing to the root.
  match segments.dropWhile (· == []) with
  | [] => ("/", drive)
  | segments => (pathText segments, drive)

end AuditStage.Url
