import Mathlib.Data.List.Induction
import RadarOverlay.Proofs.Session

/-!
The anchor in the store. A stored coordinate is a number in white space, by a grammar that is
given here apart from its reader: a sign or none, and one digit or more. Main statements:
`readCoordinate_eq_some_iff` says that exactly the texts of the grammar are read, and with the
number they denote, and `stored_anchor_by_grammar` what a store makes of an anchor, and that an
anchor that is saved comes back.
-/
namespace RadarOverlay

namespace Text

/-! ## Numbers in white space -/

/-- Digits denote a number, the last digit counting once and each one before it ten times as
much as the next. -/
inductive Digits : List Char → Nat → Prop where
  | one {d : Char} (digit : d.isDigit) : Digits [d] (d.toNat - '0'.toNat)
  | more {ds : List Char} {n : Nat} {d : Char} (before : Digits ds n) (digit : d.isDigit) :
      Digits (ds ++ [d]) (10 * n + (d.toNat - '0'.toNat))

/-- Digits after a sign or after none denote an integer. -/
inductive Signed : List Char → Int → Prop where
  | plain {ds : List Char} {n : Nat} (digits : Digits ds n) : Signed ds n
  | plus {ds : List Char} {n : Nat} (digits : Digits ds n) : Signed ('+' :: ds) n
  | minus {ds : List Char} {n : Nat} (digits : Digits ds n) : Signed ('-' :: ds) (-n)

/-- A text denotes an integer, with white space around it or none. -/
def Denotes (text : String) (n : Int) : Prop :=
  ∃ before inner after, text.toList = before ++ inner ++ after ∧
    (∀ c ∈ before, isBlank c) ∧ (∀ c ∈ after, isBlank c) ∧ Signed inner n

theorem Digits.ne_nil {ds : List Char} {n : Nat} (digits : Digits ds n) : ds ≠ [] := by
  cases digits <;> simp

theorem Digits.isDigit {ds : List Char} {n : Nat} (digits : Digits ds n) :
    ∀ c ∈ ds, c.isDigit := by
  induction digits with
  | one digit => simpa using digit
  | more _ digit ih =>
    intro c member
    rcases List.mem_append.mp member with before | last
    · exact ih c before
    · rwa [List.mem_singleton.mp last]

theorem Digits.value {ds : List Char} {n : Nat} (digits : Digits ds n) :
    Nat.ofDigitChars 10 ds 0 = n := by
  induction digits with
  | one => simp [Nat.ofDigitChars]
  | more _ _ ih =>
    rw [← ih]
    simp [Nat.ofDigitChars, List.foldl_append]

/-- Where there is a digit and nothing else, a number is denoted. -/
theorem digits_of_all {ds : List Char} (some : ds ≠ []) (all : ∀ c ∈ ds, c.isDigit) :
    Digits ds (Nat.ofDigitChars 10 ds 0) := by
  induction ds using List.reverseRecOn with
  | nil => exact absurd rfl some
  | append_singleton ds d ih =>
    have digit : d.isDigit := all d (by simp)
    have last : Nat.ofDigitChars 10 (ds ++ [d]) 0 =
        10 * Nat.ofDigitChars 10 ds 0 + (d.toNat - '0'.toNat) := by
      simp [Nat.ofDigitChars, List.foldl_append]
    rw [last]
    cases empty : ds with
    | nil => simpa [Nat.ofDigitChars] using Digits.one digit
    | cons c rest =>
      rw [← empty]
      refine .more (ih (by simp [empty]) fun c member => all c ?_) digit
      exact List.mem_append_left _ member

theorem readNat_eq_some_iff {cs : List Char} {n : Nat} : readNat cs = some n ↔ Digits cs n := by
  constructor
  · intro read
    unfold readNat at read
    split at read
    · cases read
    · rename_i cs' nonempty
      split at read
      · rename_i all
        cases read
        exact digits_of_all nonempty (List.all_eq_true.mp all)
      · cases read
  · intro digits
    have all : cs.all Char.isDigit = true := List.all_eq_true.mpr digits.isDigit
    unfold readNat
    split
    · exact absurd rfl digits.ne_nil
    · rw [if_pos all, digits.value]

/-- Digits are not a sign, so a reader of signs leaves them to the reader of digits. -/
theorem readInt_of_digits {ds : List Char} {n : Nat} (digits : Digits ds n) :
    readInt ds = some n := by
  have read : readNat ds = some n := readNat_eq_some_iff.mpr digits
  unfold readInt
  split
  · have sign := digits.isDigit '+' (by simp)
    simp at sign
  · have sign := digits.isDigit '-' (by simp)
    simp at sign
  · simp [read]

theorem readInt_eq_some_iff {cs : List Char} {n : Int} : readInt cs = some n ↔ Signed cs n := by
  constructor
  · intro read
    unfold readInt at read
    split at read <;>
      (obtain ⟨m, inner, rfl⟩ := Option.map_eq_some_iff.mp read
       have digits := readNat_eq_some_iff.mp inner)
    · exact .plus digits
    · exact .minus digits
    · exact .plain digits
  · rintro (digits | digits | digits)
    · exact readInt_of_digits digits
    · simp [readInt, readNat_eq_some_iff.mpr digits]
    · simp [readInt, readNat_eq_some_iff.mpr digits]

theorem Signed.ne_nil {cs : List Char} {n : Int} (signed : Signed cs n) : cs ≠ [] := by
  cases signed with
  | plain digits => exact digits.ne_nil
  | plus => simp
  | minus => simp

theorem Signed.not_blank {cs : List Char} {n : Int} (signed : Signed cs n) :
    ∀ c ∈ cs, isBlank c = false := by
  have digit {ds : List Char} {m : Nat} (digits : Digits ds m) : ∀ c ∈ ds, isBlank c = false :=
    fun c member => isBlank_of_isDigit (digits.isDigit c member)
  cases signed with
  | plain digits => exact digit digits
  | plus digits => exact List.forall_mem_cons.mpr ⟨by decide, digit digits⟩
  | minus digits => exact List.forall_mem_cons.mpr ⟨by decide, digit digits⟩

/-! ## White space -/

/-- White space is dropped in front of a text that does not begin with any. -/
theorem dropWhile_blank {before inner : List Char} (blank : ∀ c ∈ before, isBlank c)
    (solid : ∀ c ∈ inner.head?, isBlank c = false) :
    (before ++ inner).dropWhile isBlank = inner := by
  rw [List.dropWhile_append_of_pos blank]
  cases inner with
  | nil => rfl
  | cons c rest => simp [solid c (by simp)]

/-- What is left of a text without the white space at its ends. -/
theorem trimChars_between {before inner after : List Char} (start : ∀ c ∈ before, isBlank c)
    (finish : ∀ c ∈ after, isBlank c) (nonempty : inner ≠ [])
    (solid : ∀ c ∈ inner, isBlank c = false) :
    trimChars (before ++ inner ++ after) = inner := by
  have front : trimStart (before ++ inner ++ after) = inner ++ after := by
    rw [trimStart, List.append_assoc]
    refine dropWhile_blank start fun c first => solid c ?_
    obtain ⟨d, rest, rfl⟩ := List.exists_cons_of_ne_nil nonempty
    cases first
    exact List.mem_cons_self
  have back : (inner ++ after).reverse.dropWhile isBlank = inner.reverse := by
    rw [List.reverse_append]
    refine dropWhile_blank (fun c member => finish c (List.mem_reverse.mp member)) fun c last => ?_
    exact solid c (List.mem_reverse.mp (List.mem_of_mem_head? last))
  rw [trimChars, front, trimEnd, back, List.reverse_reverse]

/-- A text is what is left of it with white space around. -/
theorem exists_blanks (cs : List Char) : ∃ before after, cs = before ++ trimChars cs ++ after ∧
    (∀ c ∈ before, isBlank c) ∧ ∀ c ∈ after, isBlank c := by
  have blanks (ds : List Char) : ∀ c ∈ ds.takeWhile isBlank, isBlank c :=
    List.all_eq_true.mp List.all_takeWhile
  refine ⟨cs.takeWhile isBlank, ((trimStart cs).reverse.takeWhile isBlank).reverse, ?_,
    blanks cs, fun c member => blanks _ c (List.mem_reverse.mp member)⟩
  rw [trimChars, trimEnd, List.append_assoc, ← List.reverse_append,
    List.takeWhile_append_dropWhile, List.reverse_reverse, trimStart,
    List.takeWhile_append_dropWhile]

end Text

open Text in
/-- A text is read as a coordinate exactly if it denotes one, and as the one that it denotes. -/
theorem readCoordinate_eq_some_iff {text : String} {v : Int32} :
    readCoordinate text = some v ↔ Denotes text v.toInt := by
  constructor
  · intro read
    obtain ⟨n, number, ranged⟩ := Option.bind_eq_some_iff.mp read
    split at ranged
    · rename_i fits
      cases ranged
      obtain ⟨before, after, split, start, finish⟩ := exists_blanks text.toList
      rw [Coordinate.toInt_ofInt_of_inRange fits]
      exact ⟨before, _, after, split, start, finish, readInt_eq_some_iff.mp number⟩
    · cases ranged
  · rintro ⟨before, inner, after, split, start, finish, signed⟩
    have kept : trimChars text.toList = inner := by
      rw [split, trimChars_between start finish signed.ne_nil signed.not_blank]
    simp [readCoordinate, kept, readInt_eq_some_iff.mpr signed, Coordinate.inRange_toInt]

/-! ## What a store makes of an anchor -/

/-- What is loaded and what is noted for the coordinate under a key, by what is kept there. -/
structure SettingKey.Follows (setting : SettingKey) (kept : Option String) (loaded : Option Int32)
    (noted : List Notice) : Prop where
  loaded_iff (v : Int32) : loaded = some v ↔ ∃ text, kept = some text ∧ Text.Denotes text v.toInt
  noted_of_unread {text : String} (present : kept = some text) (unread : loaded = none) :
    noted = [.settingRejected (.invalidNumber setting.key text)]
  silent (settled : kept = none ∨ loaded.isSome) : noted = []
  warned {notice : Notice} (member : notice ∈ noted) : notice.level = .warn ∧
    ∃ text, notice.message =
      "Invalid number for setting " ++ setting.key ++ ": " ++ Text.quoted text

/-- A coordinate is loaded by the grammar, and what is kept and not loaded is noted. -/
theorem SettingKey.follows (setting : SettingKey) (kept : String → Option String) :
    setting.Follows (kept setting.key) (setting.coordinate? kept) (setting.complaints kept) where
  loaded_iff v := by
    simp only [SettingKey.coordinate?, Option.bind_eq_some_iff, readCoordinate_eq_some_iff]
  noted_of_unread present unread := by
    rw [SettingKey.coordinate?, present, Option.bind_some] at unread
    simp only [SettingKey.complaints, present, unread, if_true]
  silent settled := by
    rcases settled with missing | read
    · simp only [SettingKey.complaints, missing]
    · obtain ⟨v, read⟩ := Option.isSome_iff_exists.mp read
      obtain ⟨text, present, denotes⟩ := Option.bind_eq_some_iff.mp read
      simp [SettingKey.complaints, present, denotes]
  warned member := by
    unfold SettingKey.complaints at member
    split at member
    · cases member
    · split at member
      · cases List.mem_singleton.mp member
        exact ⟨rfl, _, rfl⟩
      · cases member

section

open Program

variable {H C K : Type} [Host H] [LightingClient C] [Canvas K]

/-- Each coordinate of an anchor is set exactly if the text that the store has under its key is a
number by the grammar, and to that number; it is kept otherwise, with one warning if there is a
text. The other coordinate and the target depend on their own keys alone. An anchor that is saved
comes back, whatever anchor it is loaded onto. -/
theorem stored_anchor_by_grammar (s : Situation H C K) :
    (∃ settings notedX notedY,
      (Overlay.run ScreenSettings.load s).result = .ok settings ∧
      (Overlay.run ScreenSettings.load s).state = s ∧
      effects (Overlay.run ScreenSettings.load s).trace = [] ∧
      notices (Overlay.run ScreenSettings.load s).trace = notedX ++ notedY ∧
      SettingKey.menuX.Follows (Host.loadSetting s.host "menuX") settings.menuX notedX ∧
      SettingKey.menuY.Follows (Host.loadSetting s.host "menuY") settings.menuY notedY ∧
      settings.aerodrome = (Host.loadSetting s.host "aerodrome").filter (· ≠ "") ∧
      ∀ anchor : MenuAnchor,
        (settings.applyAnchor anchor).x = settings.menuX.getD anchor.x ∧
          (settings.applyAnchor anchor).y = settings.menuY.getD anchor.y) ∧
    (LawfulSettings H → ∀ anchor other : MenuAnchor,
      (Overlay.run anchor.save s).result = .ok () ∧
      ∃ settings, (Overlay.run ScreenSettings.load (Overlay.run anchor.save s).state).result =
          .ok settings ∧
        settings.applyAnchor other = anchor) := by
  refine ⟨?_, fun lawful anchor other => ⟨rfl, ?_⟩⟩
  · obtain ⟨trace, quiet, noted, loaded⟩ := run_load s
    refine ⟨.ofStore (Host.loadSetting s.host), _, _, ?_, ?_, ?_, ?_,
      SettingKey.menuX.follows _, SettingKey.menuY.follows _, rfl, fun _ => ⟨rfl, rfl⟩⟩
    · rw [Overlay.run, loaded]
    · rw [Overlay.run, loaded]
    · rw [Overlay.run, loaded, quiet]
    · rw [Overlay.run, loaded, noted]
  · obtain ⟨_, -, -, loaded⟩ := run_load (Overlay.run anchor.save s).state
    have stored := ofStore_saving_anchor s.host anchor
    refine ⟨.ofStore (Host.loadSetting (Overlay.run anchor.save s).state.host), ?_, ?_⟩
    · rw [Overlay.run, loaded]
    · have described : ScreenSettings.ofStore
          (Host.loadSetting (Overlay.run anchor.save s).state.host) = _ := stored
      rw [described]
      rfl

open Simulation in
/-- A store with a number between white space under one key, and with octets that are no text after
a digit under the other. -/
theorem stored_anchor_by_grammar_octets :
    let host : OctetHost := ⟨Scene.initial.host, [("menuX", Text.octets " \u00a0+007\u3000"),
      ("menuY", [0x39, 0xff]), ("aerodrome", Text.octets "EGLL")]⟩
    let s : Situation OctetHost SceneClient SceneCanvas :=
      ⟨.initial, host, Scene.initial.client, Scene.initial.canvas⟩
    (∃ settings, (Overlay.run ScreenSettings.load s).result = .ok settings ∧
      settings.applyAnchor ⟨10, 20⟩ = ⟨7, 20⟩ ∧
      notices (Overlay.run ScreenSettings.load s).trace =
        [.settingRejected (.invalidNumber "menuY" "9\ufffd")]) ∧
    ∃ settings, (Overlay.run ScreenSettings.load
        (Overlay.run (MenuAnchor.save ⟨-0x80000000, 0x7fffffff⟩) s).state).result = .ok settings ∧
      settings.applyAnchor ⟨10, 20⟩ = ⟨-0x80000000, 0x7fffffff⟩ := by
  intro host s
  have keptX : Host.loadSetting s.host "menuX" = some " \u00a0+007\u3000" := by decide +kernel
  have keptY : Host.loadSetting s.host "menuY" = some "9\ufffd" := by decide +kernel
  have seven : Text.Denotes " \u00a0+007\u3000" (7 : Int32).toInt :=
    readCoordinate_eq_some_iff.mp (by decide +kernel)
  have unread : readCoordinate "9\ufffd" = none := by decide +kernel
  obtain ⟨⟨settings, notedX, notedY, result, -, -, noted, followsX, followsY, -, applied⟩,
    comesBack⟩ := stored_anchor_by_grammar s
  have menuX : settings.menuX = some 7 := (followsX.loaded_iff 7).mpr ⟨_, keptX, seven⟩
  have menuY : settings.menuY = none := by
    cases loaded : settings.menuY with
    | none => rfl
    | some v =>
      obtain ⟨text, present, denotes⟩ := (followsY.loaded_iff v).mp loaded
      cases keptY.symm.trans present
      rw [← readCoordinate_eq_some_iff, unread] at denotes
      cases denotes
  obtain ⟨x, y⟩ := applied ⟨10, 20⟩
  rw [menuX] at x
  rw [menuY] at y
  rw [followsX.silent (.inr (by rw [menuX]; rfl)), followsY.noted_of_unread keptY menuY] at noted
  obtain ⟨-, extremes⟩ := comesBack inferInstance ⟨-0x80000000, 0x7fffffff⟩ ⟨10, 20⟩
  refine ⟨⟨settings, result, ?_, noted⟩, extremes⟩
  cases both : settings.applyAnchor ⟨10, 20⟩
  rw [both] at x y
  cases x
  cases y
  rfl

end

end RadarOverlay
