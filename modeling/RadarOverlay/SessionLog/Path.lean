import RadarOverlay.Text.Utf8

/-!
Paths: octets that spell the steps to a file or a directory, with slashes between them.
Two dots are a step out of a directory, one dot is no step at all, and anything else is
a step into the directory of that name. What a path leads to, only a disk can say.
-/
namespace RadarOverlay.SessionLog

/-- A file name as the file system has it: octets that need not be text. -/
abbrev FileName := List UInt8

/-- The most octets that a name can have. -/
def greatestNameLength : Nat := 255

/-- A step from one directory to another. -/
inductive Step where
  /-- To the directory that holds this one; the root holds itself. -/
  | out
  | into (name : FileName)
  deriving DecidableEq, Repr

/-- The step that a part of a path spells, if it is one. -/
def Step.ofPart? (part : FileName) : Option Step :=
  if part = [0x2e] then none
  else if part = [0x2e, 0x2e] then some .out
  else some (.into part)

/-- A path, as it is spelled. -/
structure Path where
  octets : List UInt8
  deriving DecidableEq, Repr

namespace Path

/-- The path that a text spells. -/
def ofText (text : String) : Path := ⟨Text.octets text⟩

/-- The most octets that a path can have. -/
def greatestLength : Nat := 4095

/-- Whether the file system takes the path: it is not too long and has no zero octet. -/
def isTaken (path : Path) : Bool :=
  path.octets.length ≤ greatestLength && !path.octets.contains 0

/-- Whether the path begins at the root, and not at the working directory. -/
def isRooted (path : Path) : Bool := path.octets.head? == some 0x2f

/-- The parts between slashes. Slashes may be repeated, and may come last. -/
def parts (path : Path) : List FileName := (path.octets.splitOn 0x2f).filter (· ≠ [])

/-- The steps that a path spells, from where it begins. -/
def steps (path : Path) : List Step := path.parts.filterMap Step.ofPart?

/-- Whether a single dot is the last part. A directory that is missing is not made by such a
name. -/
def endsInDot (path : Path) : Bool := path.parts.getLast? == some [0x2e]

/-- A path that is taken from a directory. A rooted one stands for itself. -/
def join (path other : Path) : Path :=
  if other.isRooted then other
  else if path.octets = [] ∨ path.octets.getLast? = some 0x2f then
    ⟨path.octets ++ other.octets⟩
  else ⟨path.octets ++ 0x2f :: other.octets⟩

end Path

end RadarOverlay.SessionLog
