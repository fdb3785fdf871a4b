import Mathlib.Data.List.Nodup
import RadarOverlay.Proofs.Directories
import RadarOverlay.Proofs.Pruning
import RadarOverlay.SessionLog.Disk

/-!
Logs of sessions on a disk. Pruning removes stale logs and nothing else, and the log of a session
that begins outlives the pruning at its beginning, whatever the file system answers. Main
statements: `stale_logs_are_pruned` says exactly what pruning removes, and when the log of a new
session stays; `misspelt_log_is_spared` shows a stale file that is framed like a log, but whose name
is no text.
-/
namespace RadarOverlay.SessionLog

/-- A disk that lists a directory into which a file of this name has just been put tells of it, if
any age, one that is not beyond the greatest. -/
def TellsYoung (list : Entries → List (Option Listed)) (name : FileName) (greatest : Nat) : Prop :=
  ∀ (entries : Entries) (entry : Listed), some entry ∈ list (entries.put name (.file 0)) →
    entry.name = name → ∀ age, entry.age = some age → age ≤ greatest

theorem tellsYoung_listing (nameable : FileName → Bool) (name : FileName) (greatest : Nat) :
    TellsYoung (Entries.listing nameable) name greatest := by
  intro entries entry listed named age told
  obtain ⟨⟨other, node⟩, member, same⟩ := List.mem_map.mp listed
  rw [Option.some.injEq] at same
  subst same
  rcases List.mem_append.mp member with old | new
  · have apart : other ≠ name := by simpa using (List.mem_filter.mp old).2
    exact absurd ((Node.name_listed nameable other node).symm.trans named) apart
  · rw [List.mem_singleton, Prod.mk.injEq] at new
    obtain ⟨rfl, rfl⟩ := new
    cases told
    exact Int.natCast_nonneg greatest

/-- A file that has just been put into a directory outlives the pruning of it. -/
theorem fresh_not_removed {list : Entries → List (Option Listed)} {name : FileName} {greatest : Nat}
    (young : TellsYoung list name greatest) (entries : Entries) :
    name ∉ (prune greatest (list (entries.put name (.file 0)))).removed := by
  intro removed
  obtain ⟨entry, listed, ⟨-, age, told, stale⟩, named⟩ := due_of_removed removed
  have bound := young entries entry listed named age told
  omega

namespace Disk

variable {disk after : Disk} {path : Path} {place : Place}

/-- The path of a directory that has been made leads to its place. -/
theorem placeOf?_makeFolder (made : disk.makeFolder path = (after, some place))
    (named : path.octets ≠ []) : after.placeOf? path = some place := by
  rw [makeFolder] at made
  split at made
  · rename_i taken
    obtain ⟨rfl, ended⟩ := Prod.mk.inj made
    obtain ⟨reached, first, rest⟩ := Option.bind_eq_some_iff.mp ended
    have leads := Entries.walk?_makeRoute first
    have begins : (if path.endsInDot then path.steps.dropLast else path.steps) <+: path.steps := by
      split
      · exact List.dropLast_prefix _
      · exact List.prefix_rfl
    rw [placeOf?, if_pos ⟨taken, named⟩]
    refine (congrArg (Entries.walk? _ _) (List.prefix_iff_eq_append.mp begins).symm).trans ?_
    rw [Entries.walk?_append]
    exact Option.bind_eq_some_iff.mpr ⟨reached, leads, rest⟩
  · cases (Prod.mk.inj made).2

/-- A path leads where it led before, if no directory has been taken away. -/
theorem placeOf?_of_extends (more : after.root.Extends disk.root)
    (start : after.start path = disk.start path) (leads : disk.placeOf? path = some place) :
    after.placeOf? path = some place := by
  rw [placeOf?] at leads ⊢
  split at leads
  · rename_i taken
    rw [if_pos taken, start]
    exact Entries.walk?_of_extends more leads
  · cases leads

/-- A file that has been created is in its directory, and all directories are still there. -/
theorem folderAt?_createFile {name : FileName}
    (created : disk.createFile? path place name = some after) :
    ∃ entries : Entries, after.root.folderAt? place = some (entries.put name (.file 0)) ∧
      after.root.Extends disk.root ∧ after.start path = disk.start path := by
  obtain ⟨-, -, created⟩ := Option.bind_eq_some_iff.mp created
  obtain ⟨entries, there, created⟩ := Option.bind_eq_some_iff.mp created
  obtain ⟨others, put, created⟩ := Option.bind_eq_some_iff.mp created
  cases created
  rw [Entries.createFile?] at put
  split at put
  · cases put
  · rename_i free
    cases put
    refine ⟨entries, Entries.folderAt?_changeAt_self there, ?_, rfl⟩
    refine Entries.extends_changeAt fun entries' there' => ?_
    rw [there, Option.some.injEq] at there'
    subst there'
    exact Entries.keepsFolders_put _ fun age inner found => free age inner found

/-- A directory that has been pruned holds what the pass over its listing left. -/
theorem folderAt?_pruneListed (list : Entries → List (Option Listed)) (greatest : Nat)
    {entries : Entries} (leads : disk.placeOf? path = some place)
    (there : disk.root.folderAt? place = some entries) :
    ∃ pruned : Disk, disk.pruneListed? list greatest path =
        some (prune greatest (list entries), pruned) ∧
      pruned.root.folderAt? place = some (entries.pruneListed greatest (list entries)).2 := by
  refine ⟨_, by rw [pruneListed?, leads, Option.bind_eq_bind, Option.bind_some, there]; rfl, ?_⟩
  dsimp only
  split
  · rename_i nothing
    rw [there]
    refine congrArg some (List.filter_eq_self.mpr fun entry _ => ?_).symm
    rw [nothing]
    rfl
  · exact Entries.folderAt?_changeAt_self there

/-- A session's log is begun by making its directory, creating its file and pruning what is there,
if that is possible. -/
theorem exists_of_beginLogListed {list : Entries → List (Option Listed)} {m : Moment}
    (begun : disk.beginLogListed list path m = (after, some place)) :
    ∃ made created, disk.makeFolder path = (made, some place) ∧
      made.createFile? path place (Text.octets (logName m)) = some created ∧
      after = ((created.pruneListed? list greatestLogAge path).map Prod.snd).getD created := by
  rw [beginLogListed] at begun
  split at begun
  · cases (Prod.mk.inj begun).2
  · rename_i made reached making
    split at begun
    · cases (Prod.mk.inj begun).2
    · rename_i created creating
      obtain ⟨pruned, same⟩ := Prod.mk.inj begun
      cases same
      exact ⟨made, created, making, creating, pruned.symm⟩

/-- The log of a session that has begun is in its directory, whatever came of the pruning. -/
theorem fresh_log_stays {list : Entries → List (Option Listed)} {m : Moment}
    (young : TellsYoung list (Text.octets (logName m)) greatestLogAge)
    (begun : disk.beginLogListed list path m = (after, some place)) :
    ∃ entries, after.root.folderAt? place = some entries ∧
      entries.find? (Text.octets (logName m)) = some (.file 0) := by
  obtain ⟨made, created, making, creating, rfl⟩ := exists_of_beginLogListed begun
  obtain ⟨entries, there, more, start⟩ := folderAt?_createFile creating
  by_cases named : path.octets = []
  · -- A log can be begun at the empty path, but the path cannot be listed.
    have unlisted : created.pruneListed? list greatestLogAge path = none := by
      rw [pruneListed?, placeOf?, if_neg fun taken => taken.2 named]
      rfl
    rw [unlisted]
    exact ⟨_, there, Entries.find?_put_self ..⟩
  · have leads := placeOf?_of_extends more start (placeOf?_makeFolder making named)
    obtain ⟨pruned, pruning, left⟩ := folderAt?_pruneListed list greatestLogAge leads there
    rw [pruning]
    refine ⟨_, left, ?_⟩
    rw [Entries.find?_pruneListed, if_neg (fresh_not_removed young entries)]
    exact Entries.find?_put_self ..

end Disk

/-- Entries of one name are one, in a listing that names each entry once. -/
theorem eq_of_same_name {listing : List (Option Listed)} {first second : Listed}
    (distinct : (listing.filterMap fun entry => entry.map Listed.name).Nodup)
    (here : some first ∈ listing) (there : some second ∈ listing)
    (same : first.name = second.name) : first = second := by
  have names : (listing.filterMap fun entry => entry.map Listed.name) =
      (listing.filterMap id).map Listed.name := by
    rw [List.map_filterMap]
    rfl
  rw [names] at distinct
  exact List.inj_on_of_nodup_map distinct (List.mem_filterMap.mpr ⟨_, here, rfl⟩)
    (List.mem_filterMap.mpr ⟨_, there, rfl⟩) same

/-- A pass of pruning over a listing that names each entry once. What it removes are names of
session logs, and entries that are due. If it comes to the end it has removed every entry that is
due, it has counted them, and in any other order it comes to the end as well and leaves the same. If
not, it has removed what was due before the entry it did not get beyond, and nothing else. And the
log of a session that has begun is in its directory, if the disk tells its age, whatever comes of
the pruning. -/
theorem stale_logs_are_pruned (greatest : Nat) (listing : List (Option Listed))
    (distinct : (listing.filterMap fun entry => entry.map Listed.name).Nodup) :
    let pruning := prune greatest listing
    let left (listing : List (Option Listed)) (entries : Entries) :=
      (entries.pruneListed greatest listing).2
    (∀ entries name, (left listing entries).find? name =
      if name ∈ pruning.removed then none else entries.find? name) ∧
    (∀ name ∈ pruning.removed, NamesLog name ∧ Framed name) ∧
    (∀ entry, some entry ∈ listing → entry.name ∈ pruning.removed → entry.Due greatest) ∧
    (pruning.complete = true →
      (∀ entry, some entry ∈ listing → entry.Due greatest → entry.name ∈ pruning.removed) ∧
      pruning.count = pruning.removed.length ∧
      (pruning.count = listing.countP fun entry => entry.any fun entry => entry.Due greatest) ∧
      ∀ other, other.Perm listing → (prune greatest other).complete = true ∧
        ∀ entries, left other entries = left listing entries) ∧
    (pruning.complete = false → ∃ before failing behind,
      listing = before ++ failing :: behind ∧
      (∀ entry ∈ before, ¬ Stops greatest entry) ∧ Stops greatest failing ∧
      ∀ name, name ∈ pruning.removed ↔
        ∃ entry, some entry ∈ before ∧ entry.Due greatest ∧ entry.name = name) ∧
    ∀ (disk : Disk) list path m after place,
      TellsYoung list (Text.octets (logName m)) greatestLogAge →
      disk.beginLogListed list path m = (after, some place) →
      ∃ entries, after.root.folderAt? place = some entries ∧
        entries.find? (Text.octets (logName m)) = some (.file 0) := by
  intro pruning left
  refine ⟨fun entries name => entries.find?_pruneListed name, ?_, ?_, ?_, ?_, ?_⟩
  · intro name removed
    obtain ⟨entry, -, ⟨log, -⟩, rfl⟩ := due_of_removed removed
    exact ⟨log, log.framed⟩
  · intro entry listed removed
    obtain ⟨other, listed', due, named⟩ := due_of_removed removed
    rw [eq_of_same_name distinct listed listed' named.symm]
    exact due
  · intro complete
    obtain ⟨-, removed⟩ := prune_of_complete complete
    have counted : pruning.count = pruning.removed.length := count_eq_length greatest listing
    refine ⟨?_, counted, ?_, ?_⟩
    · intro entry listed due
      rw [removed, mem_dueNames]
      exact ⟨entry, listed, due, rfl⟩
    · rw [counted, removed, length_dueNames]
    · intro other reordered
      exact ⟨(prune_perm reordered complete).1, Entries.pruneListed_perm reordered complete⟩
  · intro incomplete
    rcases prune_outcome greatest listing with
      ⟨-, -, ends⟩ | ⟨before, failing, behind, split, passes, fails, names, -⟩
    · cases incomplete.symm.trans ends
    · refine ⟨before, failing, behind, split, passes, fails, fun name => ?_⟩
      rw [show pruning.removed = _ from names]
      exact mem_dueNames
  · intro disk list path m after place young begun
    exact Disk.fresh_log_stays young begun

namespace Kept

def old (name : String) : Listed := ⟨Text.octets name, some 90000000000000, true⟩

/-- Two stale logs with one between them that the file system does not remove. -/
def listing : List (Option Listed) :=
  [some (old "bars-plugin-1.log"), some { old "bars-plugin-2.log" with removable := false },
    some (old "bars-plugin-3.log")]

/-- A disk whose only directory has a directory in it that is named like a stale log. -/
def disk : Disk :=
  ⟨[(Text.octets "logs",
    .folder 0 [(Text.octets "bars-plugin-1.log", .folder 90000000000000 [])])], []⟩

def path : Path := .ofText "/logs"

def moment : Moment := ⟨2024, 5, 6, 7, 8, 9, 10⟩

end Kept

/-- Of three stale logs the first has been removed when the second stops a pass. A new log stays in
its directory although the pruning of it fails. -/
theorem stale_logs_are_pruned_failing :
    (prune greatestLogAge Kept.listing).complete = false ∧
      (∃ before failing behind, Kept.listing = before ++ failing :: behind ∧
        Stops greatestLogAge failing) ∧
      (Kept.disk.prune? greatestLogAge Kept.path).map (fun found => found.1.complete) =
        some false ∧
      ∃ entries, (Kept.disk.beginLog Kept.path Kept.moment).1.root.folderAt?
          [Text.octets "logs"] = some entries ∧
        entries.find? (Text.octets (logName Kept.moment)) = some (.file 0) := by
  obtain ⟨-, -, -, -, stopped, begun⟩ :=
    stale_logs_are_pruned greatestLogAge Kept.listing (by decide +kernel)
  have incomplete : (prune greatestLogAge Kept.listing).complete = false := by decide +kernel
  obtain ⟨before, failing, behind, split, -, fails, -⟩ := stopped incomplete
  refine ⟨incomplete, ⟨before, failing, behind, split, fails⟩, by decide +kernel, ?_⟩
  exact begun Kept.disk _ Kept.path Kept.moment _ _ (tellsYoung_listing _ _ _)
    (Prod.ext rfl (by decide +kernel))

/-- A stale file whose name begins and ends like that of a session log, with an octet between that
no text has there. A pass comes to its end and has left it. -/
theorem misspelt_log_is_spared :
    let name := Text.octets namePrefix ++ 0xff :: Text.octets nameSuffix
    let entry : Listed := ⟨name, some 90000000000000, true⟩
    Framed name ∧ entry.Stale greatestLogAge ∧
      (prune greatestLogAge [some entry]).complete = true ∧
      name ∉ (prune greatestLogAge [some entry]).removed := by
  intro name entry
  exact ⟨⟨⟨_, rfl⟩, ⟨Text.octets namePrefix ++ [0xff], by simp [name]⟩⟩,
    ⟨_, rfl, by decide⟩, by decide +kernel, by decide +kernel⟩

end RadarOverlay.SessionLog
