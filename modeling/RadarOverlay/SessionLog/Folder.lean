import RadarOverlay.SessionLog.Prune

/-!
Directories: a tree of named entries, and the places in it. A place is told by the names
on the way from the root. A route of steps is walked from one place to another through
directories only, and the directories that are missing on it can be made on the way.
-/
namespace RadarOverlay.SessionLog

/-- A file or a directory, with the time since its last change in nanoseconds. -/
inductive Node where
  | file (age : Int)
  | folder (age : Int) (entries : List (FileName × Node))

/-- The entries of a directory by name. -/
abbrev Entries := List (FileName × Node)

/-- A place below the root: the names on the way there. -/
abbrev Place := List FileName

namespace Entries

def find? (entries : Entries) (name : FileName) : Option Node :=
  (List.find? (fun entry => entry.1 == name) entries).map Prod.snd

/-- Put an entry in, in place of the one that has its name. -/
def put (entries : Entries) (name : FileName) (node : Node) : Entries :=
  (List.filter (fun entry => entry.1 != name) entries) ++ [(name, node)]

@[simp] theorem find?_put_self (entries : Entries) (name : FileName) (node : Node) :
    (entries.put name node).find? name = some node := by
  have absent : List.find? (fun entry => entry.1 == name)
      (List.filter (fun entry => entry.1 != name) entries) = none := by
    simp [List.find?_eq_none]
  simp [find?, put, List.find?_append, absent]

theorem find?_put_of_ne (entries : Entries) {name other : FileName} (node : Node)
    (h : other ≠ name) : (entries.put name node).find? other = entries.find? other := by
  have kept (entry : FileName × Node) :
      (!decide (entry.1 = name) && decide (entry.1 = other)) = (entry.1 == other) := by
    by_cases found : entry.1 = other
    · simp [found, h]
    · simp [found]
  simp [find?, put, List.find?_append, List.find?_filter, kept, h.symm]

/-- The entries of the directory at a place, if there is one. -/
def folderAt? : Place → Entries → Option Entries
  | [], entries => some entries
  | name :: place, entries =>
    match entries.find? name with
    | some (.folder _ inner) => folderAt? place inner
    | _ => none

/-- Change the entries of the directory at a place, if there is one. Its age starts anew. -/
def changeAt (change : Entries → Entries) : Place → Entries → Entries
  | [], entries => change entries
  | name :: place, entries =>
    match entries.find? name with
    | some (.folder age inner) =>
      entries.put name (.folder (if place = [] then 0 else age) (changeAt change place inner))
    | _ => entries

/-! ## Routes -/

/-- The place one step on, if there is a directory. -/
def stepFrom? (root : Entries) (place : Place) : Step → Option Place
  | .out => some place.dropLast
  | .into name => (root.folderAt? (place ++ [name])).map fun _ => place ++ [name]

/-- The place at the end of a route, if there are directories all the way. -/
def walk? (root : Entries) (place : Place) (route : List Step) : Option Place :=
  route.foldlM root.stepFrom? place

/-- A route is walked in parts: the second from where the first ends. -/
theorem walk?_append (root : Entries) (place : Place) (first second : List Step) :
    root.walk? place (first ++ second) =
      (root.walk? place first).bind fun place => root.walk? place second := by
  simp [walk?, List.foldlM_append]

/-- Make the directory that a step leads to. A file of its name stands in the way, and a name
can be too long. -/
def makeStep (root : Entries) (place : Place) : Step → Entries
  | .out => root
  | .into name =>
    match root.folderAt? place with
    | some entries =>
      if (entries.find? name).isNone ∧ name.length ≤ greatestNameLength then
        root.changeAt (fun entries => entries.put name (.folder 0 [])) place
      else root
    | none => root

/-- Walk a route and make the directories that are missing on it, as far as that goes. -/
def makeRoute (root : Entries) (place : Place) : List Step → Entries × Option Place
  | [] => (root, some place)
  | step :: route =>
    let root := root.makeStep place step
    match root.stepFrom? place step with
    | some place => makeRoute root place route
    | none => (root, none)

/-! ## Files -/

/-- Put a new file in; a directory of that name stands in the way. -/
def createFile? (entries : Entries) (name : FileName) : Option Entries :=
  match entries.find? name with
  | some (.folder ..) => none
  | _ => some (entries.put name (.file 0))

end Entries

/-- What the file system answers about an entry of a directory: a directory is not removed
like a file, and a file only if there is a way to name it. -/
def Node.listed (nameable : FileName → Bool) (name : FileName) : Node → Listed
  | .file age => ⟨name, some age, nameable name⟩
  | .folder age _ => ⟨name, some age, false⟩

@[simp] theorem Node.name_listed (nameable : FileName → Bool) (name : FileName) (node : Node) :
    (node.listed nameable name).name = name := by
  cases node <;> rfl

namespace Entries

/-- What the file system answers about all entries of a directory. -/
def listing (nameable : FileName → Bool) (entries : Entries) : List (Option Listed) :=
  entries.map fun (name, node) => some (node.listed nameable name)

/-- Prune a directory as a file system lists it: in an order of its own, and with its own answers
about the entries. -/
def pruneListed (greatest : Nat) (listing : List (Option Listed)) (entries : Entries) :
    Pruning × Entries :=
  let pruning := SessionLog.prune greatest listing
  (pruning, List.filter (fun entry => !pruning.removed.contains entry.1) entries)

end Entries

end RadarOverlay.SessionLog
