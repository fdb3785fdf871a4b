import RadarOverlay.SessionLog.Folder

/-!
Changes to a tree of directories. A change of one directory that keeps the directories in it takes
no directory of the tree away, so that routes lead where they led before. Main statement:
`walk?_makeRoute` says that a route whose missing directories have been made leads to the place
that making it ended at.
-/
namespace RadarOverlay.SessionLog.Entries

/-- Every directory of the tree is still there. -/
def Extends (after before : Entries) : Prop :=
  ∀ place, (before.folderAt? place).isSome = true → (after.folderAt? place).isSome = true

/-- The directories in a directory are still there, with what they hold. -/
def KeepsFolders (after before : Entries) : Prop :=
  ∀ name age inner, before.find? name = some (.folder age inner) →
    after.find? name = some (.folder age inner)

theorem Extends.refl (root : Entries) : root.Extends root := fun _ there => there

theorem Extends.trans {first second third : Entries} (later : third.Extends second)
    (earlier : second.Extends first) : third.Extends first :=
  fun place there => later place (earlier place there)

section

variable {root : Entries} {name : FileName} {place : Place} {change : Entries → Entries}

theorem folderAt?_cons {age : Int} {inner : Entries}
    (found : root.find? name = some (.folder age inner)) :
    root.folderAt? (name :: place) = inner.folderAt? place := by
  rw [folderAt?, found]

theorem exists_folder (there : (root.folderAt? (name :: place)).isSome = true) :
    ∃ (age : Int) (inner : Entries), root.find? name = some (.folder age inner) ∧
      (inner.folderAt? place).isSome = true := by
  rw [folderAt?] at there
  split at there
  · rename_i age inner found
    exact ⟨age, inner, found, there⟩
  · cases there

theorem changeAt_cons {age : Int} {inner : Entries}
    (found : root.find? name = some (.folder age inner)) :
    root.changeAt change (name :: place) =
      root.put name (.folder (if place = [] then 0 else age) (inner.changeAt change place)) := by
  rw [changeAt, found]

/-- A directory that has been changed holds what it was changed to. -/
theorem folderAt?_changeAt_self {entries : Entries} (there : root.folderAt? place = some entries) :
    (root.changeAt change place).folderAt? place = some (change entries) := by
  induction place generalizing root with
  | nil =>
    cases there
    rfl
  | cons name place ih =>
    obtain ⟨age, inner, found, -⟩ := exists_folder (Option.isSome_of_eq_some there)
    rw [folderAt?_cons found] at there
    rw [changeAt_cons found, folderAt?_cons (find?_put_self ..)]
    exact ih there

/-- A change of one directory that keeps the directories in it takes none away anywhere. -/
theorem extends_changeAt
    (keeps : ∀ entries, root.folderAt? place = some entries →
      (change entries).KeepsFolders entries) :
    (root.changeAt change place).Extends root := by
  induction place generalizing root with
  | nil =>
    intro other there
    cases other with
    | nil => rfl
    | cons name other =>
      obtain ⟨age, inner, found, below⟩ := exists_folder there
      rw [changeAt, folderAt?_cons (keeps root rfl name age inner found)]
      exact below
  | cons name place ih =>
    intro other there
    rw [changeAt]
    split
    · rename_i age inner found
      cases other with
      | nil => rfl
      | cons step other =>
        obtain ⟨age', inner', found', below⟩ := exists_folder there
        by_cases same : step = name
        · subst same
          rw [found] at found'
          cases found'
          rw [folderAt?_cons (find?_put_self ..)]
          exact ih (fun entries there => keeps entries ((folderAt?_cons found).trans there))
            other below
        · rw [folderAt?_cons ((find?_put_of_ne root _ same).trans found')]
          exact below
    · exact there

/-- What is put into a directory does not take a directory away, if there is none of its name. -/
theorem keepsFolders_put {entries : Entries} (node : Node)
    (free : ∀ age inner, entries.find? name ≠ some (.folder age inner)) :
    (entries.put name node).KeepsFolders entries := by
  intro other age inner found
  have apart : other ≠ name := by
    rintro rfl
    exact free age inner found
  rw [find?_put_of_ne entries node apart, found]

/-! ## Routes -/

theorem stepFrom?_of_extends {after before : Entries} {next : Place} {step : Step}
    (more : after.Extends before) (leads : before.stepFrom? place step = some next) :
    after.stepFrom? place step = some next := by
  cases step with
  | out => exact leads
  | into name =>
    simp only [stepFrom?, Option.map_eq_some_iff] at leads ⊢
    obtain ⟨entries, there, same⟩ := leads
    obtain ⟨others, there⟩ :=
      Option.isSome_iff_exists.mp (more _ (Option.isSome_of_eq_some there))
    exact ⟨others, there, same⟩

/-- Where no directory is taken away, a route leads where it led before. -/
theorem walk?_of_extends {after before : Entries} {last : Place} {route : List Step}
    (more : after.Extends before) (leads : before.walk? place route = some last) :
    after.walk? place route = some last := by
  induction route generalizing place with
  | nil => exact leads
  | cons step route ih =>
    rw [walk?, List.foldlM_cons] at leads ⊢
    obtain ⟨next, first, rest⟩ := Option.bind_eq_some_iff.mp leads
    exact Option.bind_eq_some_iff.mpr ⟨next, stepFrom?_of_extends more first, ih rest⟩

theorem extends_makeStep (root : Entries) (place : Place) (step : Step) :
    (root.makeStep place step).Extends root := by
  cases step with
  | out => exact .refl root
  | into name =>
    rw [makeStep]
    split
    · rename_i entries there
      split
      · rename_i possible
        refine extends_changeAt fun others there' => ?_
        rw [there, Option.some.injEq] at there'
        subst there'
        refine keepsFolders_put _ fun age inner found => ?_
        rw [found] at possible
        cases possible.1
      · exact .refl root
    · exact .refl root

theorem extends_makeRoute (root : Entries) (place : Place) (route : List Step) :
    (root.makeRoute place route).1.Extends root := by
  induction route generalizing root place with
  | nil => exact .refl root
  | cons step route ih =>
    rw [makeRoute]
    split
    · exact (ih _ _).trans (extends_makeStep root place step)
    · exact extends_makeStep root place step

/-- A route whose missing directories have been made leads to where making it ended. -/
theorem walk?_makeRoute {last : Place} {route : List Step}
    (made : (root.makeRoute place route).2 = some last) :
    (root.makeRoute place route).1.walk? place route = some last := by
  induction route generalizing root place with
  | nil => exact made
  | cons step route ih =>
    rw [makeRoute] at made ⊢
    cases first : (root.makeStep place step).stepFrom? place step with
    | none =>
      simp only [first] at made
      cases made
    | some next =>
      simp only [first] at made ⊢
      have leads := stepFrom?_of_extends (extends_makeRoute _ next route) first
      rw [walk?, List.foldlM_cons]
      exact Option.bind_eq_some_iff.mpr ⟨next, leads, ih made⟩

end

end RadarOverlay.SessionLog.Entries
