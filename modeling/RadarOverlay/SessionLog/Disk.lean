import RadarOverlay.SessionLog.Folder

/-!
A disk, as paths tell of it, and what beginning a session does to it: the log's directory
is made with all directories above it, a new file is put into it, and stale logs are
removed. What fails half way leaves what was made so far.
-/
namespace RadarOverlay.SessionLog

/-- A disk with the directory that relative paths begin in. -/
structure Disk where
  root : Entries
  /-- Where paths begin unless they are rooted. -/
  workingPlace : Place

namespace Disk

/-- The place where a path begins. -/
def start (disk : Disk) (path : Path) : Place :=
  if path.isRooted then [] else disk.workingPlace

/-- The place of the directory at a path, if there is one. The empty path leads nowhere. -/
def placeOf? (disk : Disk) (path : Path) : Option Place :=
  if path.isTaken ∧ path.octets ≠ [] then disk.root.walk? (disk.start path) path.steps else none

/-- The entries of the directory at a path, if there is one. -/
def folderAt? (disk : Disk) (path : Path) : Option Entries := do
  disk.root.folderAt? (← disk.placeOf? path)

/-- Whether a path from a directory to one of its names is one the file system takes. -/
def nameable (path : Path) (name : FileName) : Bool := (path.join ⟨name⟩).isTaken

/-- Prune the directory at a path on a disk that lists its directories in a way of its own. -/
def pruneListed? (disk : Disk) (list : Entries → List (Option Listed)) (greatest : Nat)
    (path : Path) : Option (Pruning × Disk) := do
  let place ← disk.placeOf? path
  let entries ← disk.root.folderAt? place
  let (pruning, entries) := entries.pruneListed greatest (list entries)
  let root := if pruning.removed = [] then disk.root
    else disk.root.changeAt (fun _ => entries) place
  return (pruning, { disk with root })

/-- Prune the directory at a path, listed in the order of its entries. -/
def prune? (disk : Disk) (greatest : Nat) (path : Path) : Option (Pruning × Disk) :=
  disk.pruneListed? (Entries.listing (nameable path)) greatest path

/-- Make the directory at a path with all directories above it. Of a path that ends in a dot the
last directory has to be there already. -/
def makeFolder (disk : Disk) (path : Path) : Disk × Option Place :=
  if path.isTaken then
    let made := if path.endsInDot then path.steps.dropLast else path.steps
    let (root, place) := disk.root.makeRoute (disk.start path) made
    ({ disk with root }, place.bind fun place => root.walk? place (path.steps.drop made.length))
  else (disk, none)

/-- Put a new file into a directory that is at a place and has a path. -/
def createFile? (disk : Disk) (path : Path) (place : Place) (name : FileName) :
    Option Disk := do
  guard (nameable path name)
  let entries ← (← disk.root.folderAt? place).createFile? name
  return { disk with root := disk.root.changeAt (fun _ => entries) place }

/-- Begin a session's log in the directory at a path, on a disk that lists its directories in a way
of its own, and give the place of the directory if that works. Pruning may fail without harm. -/
def beginLogListed (disk : Disk) (list : Entries → List (Option Listed)) (path : Path)
    (m : Moment) : Disk × Option Place :=
  match disk.makeFolder path with
  | (disk, none) => (disk, none)
  | (disk, some place) =>
    match disk.createFile? path place (Text.octets (logName m)) with
    | none => (disk, none)
    | some disk =>
      (((disk.pruneListed? list greatestLogAge path).map Prod.snd).getD disk, some place)

/-- Begin a session's log in the directory at a path, listed in the order of its entries. -/
def beginLog (disk : Disk) (path : Path) (m : Moment) : Disk × Option Place :=
  disk.beginLogListed (Entries.listing (nameable path)) path m

end Disk

end RadarOverlay.SessionLog
