import RadarOverlay.SessionLog.Name
import RadarOverlay.SessionLog.Path

/-!
Deleting the logs of old sessions. A directory is listed once, and each entry of the
listing is looked at in turn; the file system may fail on any of them, and then what
follows is left alone.
-/
namespace RadarOverlay.SessionLog

/-- What the file system answers about one entry of a listing. -/
structure Listed where
  name : FileName
  /-- The time since the last change in nanoseconds, negative for a time to come; none if the
  file system does not tell. -/
  age : Option Int
  /-- Whether the file system removes the entry when it is asked to. -/
  removable : Bool
  deriving DecidableEq, Repr

/-- What a pass over a listing has done. -/
structure Pruning where
  /-- The names of the entries that were removed, in the order of the listing. -/
  removed : List FileName
  /-- How many entries were removed, counted one by one. -/
  count : Nat
  /-- Whether the listing was gone through to its end. -/
  complete : Bool
  deriving DecidableEq, Repr

/-- Whether an entry's name is text and the name of a session log. -/
def Listed.isLog (entry : Listed) : Bool := (Text.strict? entry.name).any isLogName

/-- Whether an age is beyond the greatest one that is kept. A time to come has no age yet. -/
def isStale (greatest : Nat) (age : Int) : Bool := greatest < age.toNat

/-- Remove the stale session logs of a listing, up to the first entry the file system fails
on. An entry that cannot even be listed is `none`. -/
def prune (greatest : Nat) : List (Option Listed) → Pruning
  | [] => ⟨[], 0, true⟩
  | none :: _ => ⟨[], 0, false⟩
  | some entry :: rest =>
    if entry.isLog then
      match entry.age with
      | none => ⟨[], 0, false⟩
      | some age =>
        if isStale greatest age then
          if entry.removable then
            let pruning := prune greatest rest
            { pruning with
              removed := entry.name :: pruning.removed
              count := pruning.count + 1 }
          else ⟨[], 0, false⟩
        else prune greatest rest
    else prune greatest rest

/-- The greatest age of a log that is kept when a session begins: one day in nanoseconds. -/
def greatestLogAge : Nat := 24 * 60 * 60 * 1000000000

end RadarOverlay.SessionLog
