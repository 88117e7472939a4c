import RemoteFlags.Text.Parts
import RemoteFlags.Url.Basic

/-!
# Paths

Paths are read segment by segment.  A segment of one dot stands for nothing, and a segment of two
dots takes back the segment before it; when such a segment is the last one, the path ends with an
empty segment in its place.

## Main definitions

* `resolvePath kind start cs`: the segments of a path, after the segments `start`.
* `filePath cs`: the segments of the path of a local file, where a drive letter is special.
* `pushSegment`, `popEmptySegment`: putting a text at the end of a path, and dropping an empty end.
-/

namespace RemoteFlags

namespace Url

/-- The ways to write one dot. -/
def isSingleDot (s : String) : Bool := [".", "%2e", "%2E"].contains s

/-- The ways to write two dots. -/
def isDoubleDot (s : String) : Bool :=
  ["..", ".%2e", ".%2E", "%2e.", "%2E.", "%2e%2e", "%2e%2E", "%2E%2e", "%2E%2E"].contains s

/-- Whether a segment names a drive: a letter and a colon or bar. -/
def isDrive (s : String) : Bool :=
  match s.toList with
  | [c, d] => c.isAlpha && (d == ':' || d == '|')
  | _ => false

/-- The segments without the last one, which stays if it names a drive. -/
def shorten (segments : List String) : List String :=
  match segments.getLast? with
  | some s => if isDrive s then segments else segments.dropLast
  | none => []

/-- The segments after one more encoded segment; `last` says whether the path ends with it. -/
def addSegment (segments : List String) (s : String) (last : Bool) : List String :=
  let ended (l : List String) : List String := if last then l ++ [""] else l
  if isDoubleDot s then ended (shorten segments)
  else if isSingleDot s then ended segments
  else segments ++ [s]

/-- The segments after several more encoded segments. -/
def addSegments (segments : List String) : List String → List String
  | [] => segments
  | [s] => addSegment segments s true
  | s :: ss => addSegments (addSegment segments s false) ss

/-- Whether a character ends a segment. -/
def endsSegment (k : Kind) (c : Char) : Bool := c == '/' || (k.isSpecial && c == '\\')

/-- The encoded segments of a path without its first slash. -/
def encodedSegments (k : Kind) (cs : List Char) : List String :=
  (Text.parts (endsSegment k) cs).map fun part => String.ofList (percentEncode inPath part)

/-- The segments of a path that follows other segments. -/
def resolvePath (k : Kind) (start : List String) (cs : List Char) : List String :=
  addSegments start (encodedSegments k cs)

/-! ### Paths of local files -/

/-- A path of a local file as far as it is read. -/
structure FilePath where
  /-- The segments. -/
  segments : List String := []
  /-- Whether a drive stands in front, which makes the path independent of a host. -/
  onDrive : Bool := false

/-- One more segment of the path of a local file.  A drive in front is written with a colon, and
text right after it is a segment of its own. -/
def FilePath.add (p : FilePath) (s : String) (last : Bool) : FilePath :=
  if p.segments.isEmpty then
    match s.toList with
    | [c, _] =>
      if isDrive s then ⟨[String.ofList [c, ':']], true⟩
      else { p with segments := addSegment p.segments s last }
    | c :: ':' :: cs =>
      if c.isAlpha then
        { p with segments := addSegment [String.ofList [c, ':']] (String.ofList cs) last }
      else { p with segments := addSegment p.segments s last }
    | _ => { p with segments := addSegment p.segments s last }
  else { p with segments := addSegment p.segments s last }

/-- Several more segments of the path of a local file. -/
def FilePath.addAll (p : FilePath) : List String → FilePath
  | [] => p
  | [s] => p.add s true
  | s :: ss => FilePath.addAll (p.add s false) ss

/-- The segments without empty ones in front, of which one is left if there is nothing else. -/
def dropLeadingEmpty : List String → List String
  | "" :: s :: ss => dropLeadingEmpty (s :: ss)
  | ss => ss

/-- The path of a local file, without its first slash. -/
def filePath (cs : List Char) : FilePath :=
  let p := FilePath.addAll {} (encodedSegments .file cs)
  { p with segments := dropLeadingEmpty p.segments }

/-! ### Changing a path at its end -/

/-- The path without an empty last segment; a path of one segment stays. -/
def popEmptySegment (segments : List String) : List String :=
  if 1 < segments.length ∧ segments.getLast? = some "" then segments.dropLast else segments

/-- Whether URLs leave a character out wherever it stands: tabs and line breaks. -/
def isLeftOut (c : Char) : Bool := c == '\t' || c == '\n' || c == '\r'

/-- A text as one encoded segment, without tabs and line breaks. -/
def segmentText (k : Kind) (s : String) : String :=
  String.ofList
    (percentEncode (if k.isSpecial then inSpecialSegment else inSegment)
      (s.toList.filter fun c => !isLeftOut c))

/-- The path with a text as its last segment.  One and two dots are not put on; an empty path of one
segment is replaced. -/
def pushSegment (k : Kind) (segments : List String) (s : String) : List String :=
  if s = "." ∨ s = ".." then segments
  else addSegment (if segments = [""] then [] else segments) (segmentText k s) true

end Url

end RemoteFlags
