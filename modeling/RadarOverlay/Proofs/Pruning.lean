import RadarOverlay.Proofs.StrictText
import RadarOverlay.SessionLog.Folder

/-!
One pass of pruning over a directory, which is listed in some order, with what the file system
answers about each entry. An entry is due if its name is the name of a session log and its age is
beyond the greatest that is kept; the pass stops at the first entry the file system fails on. Main
statements: `prune_outcome` says exactly which names a pass removes, `count_eq_length` that it
counts them, and `prune_perm` that the order of the listing makes no difference to a pass that
comes to the end.
-/
namespace RadarOverlay.SessionLog

/-- The name begins and ends like the name of a session log, octet by octet. -/
def Framed (name : FileName) : Prop :=
  Text.octets namePrefix <+: name ∧ Text.octets nameSuffix <:+ name

/-- The name is a text, and the text begins and ends like the name of a session log. -/
def NamesLog (name : FileName) : Prop :=
  ∃ text, Text.octets text = name ∧
    namePrefix.toList <+: text.toList ∧ nameSuffix.toList <:+ text.toList

theorem NamesLog.framed {name : FileName} (log : NamesLog name) : Framed name := by
  obtain ⟨text, rfl, ⟨after, begins⟩, ⟨before, ends⟩⟩ := log
  constructor
  · exact ⟨after.flatMap String.utf8EncodeChar, by
      rw [Text.octets, Text.octets, ← List.flatMap_append, begins]⟩
  · exact ⟨before.flatMap String.utf8EncodeChar, by
      rw [Text.octets, Text.octets, ← List.flatMap_append, ends]⟩

theorem strict?_isLogName_iff {name : FileName} :
    (Text.strict? name).any isLogName = true ↔ NamesLog name := by
  simp only [Option.any_eq_true, Text.strict?_eq_some_iff, isLogName, Bool.and_eq_true,
    List.isPrefixOf_iff_prefix, List.isSuffixOf_iff_suffix]
  rfl

instance (name : FileName) : Decidable (NamesLog name) :=
  decidable_of_iff _ strict?_isLogName_iff

namespace Listed

/-- The file system tells an age and it is beyond the greatest. A time to come has no age yet. -/
def Stale (greatest : Nat) (entry : Listed) : Prop :=
  ∃ age, entry.age = some age ∧ (greatest : Int) < max age 0

/-- The entry is a stale session log. -/
def Due (greatest : Nat) (entry : Listed) : Prop := NamesLog entry.name ∧ entry.Stale greatest

/-- The entry is a session log whose age the file system does not tell, or a stale one that it does
not remove. -/
def Fails (greatest : Nat) (entry : Listed) : Prop :=
  NamesLog entry.name ∧ (entry.age = none ∨ entry.Stale greatest ∧ entry.removable = false)

variable {greatest : Nat} {entry : Listed}

theorem isLog_iff : entry.isLog = true ↔ NamesLog entry.name := strict?_isLogName_iff

theorem isStale_iff {age : Int} : isStale greatest age = true ↔ (greatest : Int) < max age 0 := by
  simp only [isStale, decide_eq_true_eq]
  omega

theorem stale_iff : entry.age.any (isStale greatest) = true ↔ entry.Stale greatest := by
  simp only [Option.any_eq_true, isStale_iff]
  rfl

instance : Decidable (entry.Stale greatest) := decidable_of_iff _ stale_iff

instance : Decidable (entry.Due greatest) := inferInstanceAs (Decidable (_ ∧ _))

instance : Decidable (entry.Fails greatest) := inferInstanceAs (Decidable (_ ∧ _))

end Listed

/-- A pass does not get beyond an entry that cannot be listed, or one the file system fails on. -/
def Stops (greatest : Nat) : Option Listed → Prop
  | none => True
  | some entry => entry.Fails greatest

/-- The name of an entry that is due. -/
def dueName? (greatest : Nat) : Option Listed → Option FileName
  | none => none
  | some entry => if entry.Due greatest then some entry.name else none

def dueNames (greatest : Nat) (listing : List (Option Listed)) : List FileName :=
  listing.filterMap (dueName? greatest)

section

variable {greatest : Nat} {listing : List (Option Listed)}

theorem mem_dueNames {name : FileName} :
    name ∈ dueNames greatest listing ↔
      ∃ entry, some entry ∈ listing ∧ entry.Due greatest ∧ entry.name = name := by
  rw [dueNames, List.mem_filterMap]
  constructor
  · rintro ⟨_ | entry, member, named⟩
    · cases named
    · rw [dueName?, Option.ite_none_right_eq_some] at named
      exact ⟨entry, member, named.1, Option.some.inj named.2⟩
  · rintro ⟨entry, member, due, named⟩
    exact ⟨some entry, member, by rw [dueName?, if_pos due, named]⟩

theorem length_dueNames :
    (dueNames greatest listing).length =
      listing.countP fun entry => entry.any fun entry => entry.Due greatest := by
  rw [dueNames, List.length_filterMap_eq_countP]
  refine List.countP_congr fun entry _ => ?_
  cases entry with
  | none => simp [dueName?]
  | some entry => by_cases due : entry.Due greatest <;> simp [dueName?, due]

/-- A pass ends at an entry that it does not get beyond. -/
theorem prune_cons_of_stops {entry : Option Listed} (stops : Stops greatest entry)
    (rest : List (Option Listed)) : prune greatest (entry :: rest) = ⟨[], 0, false⟩ := by
  cases entry with
  | none => rfl
  | some entry =>
    obtain ⟨log, untold | ⟨⟨age, told, stale⟩, refused⟩⟩ := stops
    · rw [prune, if_pos (Listed.isLog_iff.mpr log), untold]
    · rw [prune, if_pos (Listed.isLog_iff.mpr log), told]
      simp [Listed.isStale_iff.mpr stale, refused]

/-- A pass removes any other entry if it is due, and goes on. -/
theorem prune_cons_of_passes {entry : Option Listed} (passes : ¬ Stops greatest entry)
    (rest : List (Option Listed)) :
    prune greatest (entry :: rest) =
      ⟨(dueName? greatest entry).toList ++ (prune greatest rest).removed,
        (dueName? greatest entry).toList.length + (prune greatest rest).count,
        (prune greatest rest).complete⟩ := by
  cases entry with
  | none => exact absurd trivial passes
  | some entry =>
    by_cases log : NamesLog entry.name
    · cases told : entry.age with
      | none => exact absurd ⟨log, .inl told⟩ passes
      | some age =>
        rw [prune, if_pos (Listed.isLog_iff.mpr log), told]
        by_cases stale : (greatest : Int) < max age 0
        · have due : entry.Due greatest := ⟨log, age, told, stale⟩
          have removable : entry.removable = true :=
            Bool.of_not_eq_false fun refused => passes ⟨log, .inr ⟨due.2, refused⟩⟩
          simp [Listed.isStale_iff.mpr stale, removable, dueName?, due, Nat.add_comm]
        · have fresh : ¬ entry.Due greatest := by
            rintro ⟨-, age', told', stale'⟩
            rw [told, Option.some.injEq] at told'
            exact stale (told' ▸ stale')
          simp [mt Listed.isStale_iff.mp stale, dueName?, fresh]
    · have other : ¬ entry.Due greatest := fun due => log due.1
      rw [prune, if_neg (mt Listed.isLog_iff.mp log)]
      simp [dueName?, other]

/-- A pass has counted what it has removed. -/
theorem count_eq_length (greatest : Nat) (listing : List (Option Listed)) :
    (prune greatest listing).count = (prune greatest listing).removed.length := by
  induction listing with
  | nil => rfl
  | cons entry rest ih =>
    by_cases stops : Stops greatest entry
    · rw [prune_cons_of_stops stops]
      rfl
    · rw [prune_cons_of_passes stops, List.length_append, ih]

/-- A pass comes to the end of a listing and has removed what is due, or it has removed what is due
before the first entry that it does not get beyond. -/
theorem prune_outcome (greatest : Nat) (listing : List (Option Listed)) :
    ((∀ entry ∈ listing, ¬ Stops greatest entry) ∧
      (prune greatest listing).removed = dueNames greatest listing ∧
      (prune greatest listing).complete = true) ∨
    ∃ before failing after, listing = before ++ failing :: after ∧
      (∀ entry ∈ before, ¬ Stops greatest entry) ∧ Stops greatest failing ∧
      (prune greatest listing).removed = dueNames greatest before ∧
      (prune greatest listing).complete = false := by
  induction listing with
  | nil => exact .inl ⟨by simp, rfl, rfl⟩
  | cons entry rest ih =>
    by_cases stops : Stops greatest entry
    · have ended := prune_cons_of_stops stops rest
      exact .inr ⟨[], entry, rest, rfl, by simp, stops, by rw [ended]; rfl, by rw [ended]⟩
    · have due (listing : List (Option Listed)) : dueNames greatest (entry :: listing) =
          (dueName? greatest entry).toList ++ dueNames greatest listing := by
        rw [dueNames, List.filterMap_cons]
        cases dueName? greatest entry <;> rfl
      rw [prune_cons_of_passes stops rest]
      rcases ih with
        ⟨passes, removed, ends⟩ | ⟨before, failing, after, rfl, passes, fails, removed, ends⟩
      · exact .inl ⟨List.forall_mem_cons.mpr ⟨stops, passes⟩, by rw [removed, due], ends⟩
      · exact .inr ⟨entry :: before, failing, after, rfl,
          List.forall_mem_cons.mpr ⟨stops, passes⟩, fails, by rw [removed, due], ends⟩

theorem prune_of_complete (complete : (prune greatest listing).complete = true) :
    (∀ entry ∈ listing, ¬ Stops greatest entry) ∧
      (prune greatest listing).removed = dueNames greatest listing := by
  rcases prune_outcome greatest listing with ⟨passes, removed, -⟩ | ⟨_, _, _, _, _, _, _, stopped⟩
  · exact ⟨passes, removed⟩
  · rw [stopped] at complete
    cases complete

/-- Whatever comes of a pass, what it has removed was due. -/
theorem due_of_removed {name : FileName} (removed : name ∈ (prune greatest listing).removed) :
    ∃ entry, some entry ∈ listing ∧ entry.Due greatest ∧ entry.name = name := by
  rcases prune_outcome greatest listing with
    ⟨-, names, -⟩ | ⟨before, failing, after, rfl, -, -, names, -⟩
  · rw [names] at removed
    exact mem_dueNames.mp removed
  · rw [names] at removed
    obtain ⟨entry, member, due⟩ := mem_dueNames.mp removed
    exact ⟨entry, List.mem_append_left _ member, due⟩

/-- A pass that comes to the end does so in any order, and removes the same. -/
theorem prune_perm {other : List (Option Listed)} (reordered : other.Perm listing)
    (complete : (prune greatest listing).complete = true) :
    (prune greatest other).complete = true ∧
      (prune greatest other).removed.Perm (prune greatest listing).removed := by
  obtain ⟨passes, removed⟩ := prune_of_complete complete
  rcases prune_outcome greatest other with
    ⟨-, names, ends⟩ | ⟨before, failing, after, rfl, _, fails, _⟩
  · rw [names, removed]
    exact ⟨ends, reordered.filterMap _⟩
  · have member : failing ∈ listing := reordered.mem_iff.mp (by simp)
    exact absurd fails (passes failing member)

end

namespace Entries

variable {greatest : Nat} {listing : List (Option Listed)}

/-- Pruning takes away the names that a pass removes, and leaves the others as they are. -/
theorem find?_pruneListed (entries : Entries) (name : FileName) :
    (entries.pruneListed greatest listing).2.find? name =
      if name ∈ (prune greatest listing).removed then none else entries.find? name := by
  by_cases removed : name ∈ (prune greatest listing).removed
  · rw [if_pos removed, find?, Option.map_eq_none_iff, List.find?_eq_none]
    intro entry member found
    have stays := (List.mem_filter.mp member).2
    rw [beq_iff_eq] at found
    simp [found, removed] at stays
  · have kept (entry : FileName × Node) :
        decide ((!(prune greatest listing).removed.contains entry.1) = true ∧
          (entry.1 == name) = true) = (entry.1 == name) := by
      by_cases found : entry.1 = name
      · simp [found, removed]
      · simp [found]
    rw [if_neg removed, find?, find?, pruneListed, List.find?_filter]
    simp only [kept]

/-- The directory that pruning leaves does not depend on the order it is listed in. -/
theorem pruneListed_perm {other : List (Option Listed)} (reordered : other.Perm listing)
    (complete : (prune greatest listing).complete = true) (entries : Entries) :
    (entries.pruneListed greatest other).2 = (entries.pruneListed greatest listing).2 := by
  obtain ⟨-, same⟩ := prune_perm reordered complete
  refine List.filter_congr fun entry _ => ?_
  rw [Bool.eq_iff_iff]
  simp [same.mem_iff]

end Entries

end RadarOverlay.SessionLog
