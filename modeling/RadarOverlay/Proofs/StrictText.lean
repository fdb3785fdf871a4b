import RadarOverlay.Proofs.WrittenText

/-!
Octets read strictly. A reader that is inside a character has spent octets on it, and whatever
octets complete the character spell it together with those. Main statement: `strict?_eq_some_iff`
says that a strict reader makes a text of octets exactly if they are the octets of that text.
-/
namespace RadarOverlay.Text

theorem toNat_val_ofNat {n : Nat} (valid : n.isValidChar) : (Char.ofNat n).val.toNat = n := by
  rw [Char.ofNat, dif_pos valid]
  rfl

theorem ofNat_eq_of_toNat (octet : UInt8) {n : Nat} (same : n = octet.toNat) :
    UInt8.ofNat n = octet := by
  rw [same, UInt8.ofNat_toNat]

theorem encodeChar_one {a : UInt8} (one : a.toNat < 0x80) :
    String.utf8EncodeChar (Char.ofNat a.toNat) = [a] := by
  have valid : a.toNat.isValidChar := .inl (by omega)
  simp only [String.utf8EncodeChar, toNat_val_ofNat valid]
  rw [if_pos (by omega), UInt8.ofNat_toNat]

theorem encodeChar_two {a b : UInt8} {n : Nat} (first : 0xc2 ≤ a.toNat ∧ a.toNat < 0xe0)
    (last : 0x80 ≤ b.toNat ∧ b.toNat ≤ 0xbf)
    (bits : n = 64 * (a.toNat - 0xc0) + (b.toNat - 0x80)) :
    String.utf8EncodeChar (Char.ofNat n) = [a, b] := by
  have valid : n.isValidChar := .inl (by omega)
  simp only [String.utf8EncodeChar, toNat_val_ofNat valid]
  rw [if_neg (by omega), if_pos (by omega), ofNat_eq_of_toNat a (by omega),
    ofNat_eq_of_toNat b (by omega)]

theorem encodeChar_three {a b c : UInt8} {n : Nat} (first : 0xe0 ≤ a.toNat ∧ a.toNat < 0xf0)
    (second : 0x80 ≤ b.toNat ∧ b.toNat ≤ 0xbf) (last : 0x80 ≤ c.toNat ∧ c.toNat ≤ 0xbf)
    (bits : n = 64 * (64 * (a.toNat - 0xe0) + (b.toNat - 0x80)) + (c.toNat - 0x80))
    (long : 0x800 ≤ n) (valid : n.isValidChar) :
    String.utf8EncodeChar (Char.ofNat n) = [a, b, c] := by
  simp only [String.utf8EncodeChar, toNat_val_ofNat valid]
  rw [if_neg (by omega), if_neg (by omega), if_pos (by omega), ofNat_eq_of_toNat a (by omega),
    ofNat_eq_of_toNat b (by omega), ofNat_eq_of_toNat c (by omega)]

theorem encodeChar_four {a b c d : UInt8} {n : Nat} (first : 0xf0 ≤ a.toNat ∧ a.toNat < 0xf5)
    (second : 0x80 ≤ b.toNat ∧ b.toNat ≤ 0xbf) (third : 0x80 ≤ c.toNat ∧ c.toNat ≤ 0xbf)
    (last : 0x80 ≤ d.toNat ∧ d.toNat ≤ 0xbf)
    (bits : n = 64 * (64 * (64 * (a.toNat - 0xf0) + (b.toNat - 0x80)) + (c.toNat - 0x80)) +
      (d.toNat - 0x80))
    (long : 0x10000 ≤ n) (short : n < 0x110000) :
    String.utf8EncodeChar (Char.ofNat n) = [a, b, c, d] := by
  have valid : n.isValidChar := .inr (by omega)
  simp only [String.utf8EncodeChar, toNat_val_ofNat valid]
  rw [if_neg (by omega), if_neg (by omega), if_neg (by omega), ofNat_eq_of_toNat a (by omega),
    ofNat_eq_of_toNat b (by omega), ofNat_eq_of_toNat c (by omega),
    ofNat_eq_of_toNat d (by omega)]

/-- Whatever octets complete a character, the first of them between `low` and `high`, they spell it
together with the octets that were spent on it. -/
def Completes (spent : List UInt8) (low high : UInt8) (bits : Nat) : (following : Nat) → Prop
  | 0 => ∀ octet, low ≤ octet ∧ octet ≤ high →
    String.utf8EncodeChar (Char.ofNat (64 * bits + (octet.toNat - 0x80))) = spent ++ [octet]
  | rest + 1 => ∀ octet, low ≤ octet ∧ octet ≤ high →
    Completes (spent ++ [octet]) 0x80 0xbf (64 * bits + (octet.toNat - 0x80)) rest

/-- The octets that a reader has spent on the character it is inside of. -/
def Utf8State.Spent (spent : List UInt8) : Utf8State → Prop
  | .between => spent = []
  | .inside low high following bits => Completes spent low high bits following

theorem completes_two {a : UInt8} (first : 0xc2 ≤ a.toNat ∧ a.toNat < 0xe0) :
    Completes [a] 0x80 0xbf (a.toNat - 0xc0) 0 := by
  intro b last
  simp only [UInt8.le_iff_toNat_le] at last
  exact encodeChar_two first last rfl

/-- The second of three octets decides that the character is not a shorter one or a surrogate. -/
theorem completes_three {a low high : UInt8} {bits : Nat} (first : 0xe0 ≤ a.toNat ∧ a.toNat < 0xf0)
    (same : bits = a.toNat - 0xe0) (least : 0x80 ≤ low.toNat) (most : high.toNat ≤ 0xbf)
    (long : 0x800 ≤ 4096 * bits + 64 * (low.toNat - 0x80))
    (scalar : 4096 * bits + 64 * (high.toNat - 0x80) + 0x3f < 0xd800 ∨
      0xdfff < 4096 * bits + 64 * (low.toNat - 0x80)) :
    Completes [a] low high bits 1 := by
  intro b second c last
  simp only [UInt8.le_iff_toNat_le] at second last
  have tail : 0x80 ≤ c.toNat ∧ c.toNat ≤ 0xbf := last
  refine encodeChar_three first ⟨by omega, by omega⟩ tail (by rw [same]) (by omega) ?_
  rcases scalar with below | above
  · exact .inl (by omega)
  · exact .inr (by omega)

/-- The second of four octets decides that the character is not a shorter one or beyond the last. -/
theorem completes_four {a low high : UInt8} {bits : Nat} (first : 0xf0 ≤ a.toNat ∧ a.toNat < 0xf5)
    (same : bits = a.toNat - 0xf0) (least : 0x80 ≤ low.toNat) (most : high.toNat ≤ 0xbf)
    (long : 0x10000 ≤ 262144 * bits + 4096 * (low.toNat - 0x80))
    (short : 262144 * bits + 4096 * (high.toNat - 0x80) + 0xfff < 0x110000) :
    Completes [a] low high bits 2 := by
  intro b second c third d last
  simp only [UInt8.le_iff_toNat_le] at second third last
  have tail : 0x80 ≤ c.toNat ∧ c.toNat ≤ 0xbf := third
  have tail' : 0x80 ≤ d.toNat ∧ d.toNat ≤ 0xbf := last
  exact encodeChar_four first ⟨by omega, by omega⟩ tail tail' (by rw [same]) (by omega) (by omega)

/-- What one more octet leads to: it completes the character that octets were spent on, or is spent
on it as well, or there is a fault. -/
inductive Reads (spent : List UInt8) (octet : UInt8) : List (Option Char) × Utf8State → Prop where
  | whole {c : Char} (spells : String.utf8EncodeChar c = spent ++ [octet]) :
    Reads spent octet ([some c], .between)
  | spent {low high : UInt8} {following bits : Nat}
    (completes : Completes (spent ++ [octet]) low high bits following) :
    Reads spent octet ([], .inside low high following bits)
  | fault {found : List (Option Char)} {next : Utf8State} : Reads spent octet (none :: found, next)

/-- The first octet of a character is all of it, or spent on it, or begins none; the cases are those
of `beginChar`. -/
theorem beginChar_reads (octet : UInt8) : Reads [] octet (beginChar octet) := by
  have bound : octet.toNat < 256 := octet.toNat_lt
  unfold beginChar
  simp only
  split
  · exact .whole (encodeChar_one (by omega))
  split
  · exact .fault
  split
  · exact .spent (completes_two ⟨by omega, by omega⟩)
  split
  · refine .spent (completes_three ⟨by omega, by omega⟩ (by omega) ?_ ?_ ?_ ?_) <;> decide
  split
  · refine .spent (completes_three ⟨by omega, by omega⟩ (by omega) ?_ ?_ ?_ ?_) <;> decide
  split
  · refine .spent (completes_three ⟨by omega, by omega⟩ rfl (by decide) (by decide) ?_ ?_)
    · show 0x800 ≤ 4096 * _ + 64 * (0x80 - 0x80)
      omega
    · show 4096 * _ + 64 * (0xbf - 0x80) + 0x3f < 0xd800 ∨ 0xdfff < 4096 * _ + 64 * (0x80 - 0x80)
      omega
  split
  · refine .spent (completes_four ⟨by omega, by omega⟩ (by omega) ?_ ?_ ?_ ?_) <;> decide
  split
  · refine .spent (completes_four ⟨by omega, by omega⟩ rfl (by decide) (by decide) ?_ ?_)
    · show 0x10000 ≤ 262144 * _ + 4096 * (0x80 - 0x80)
      omega
    · show 262144 * _ + 4096 * (0xbf - 0x80) + 0xfff < 0x110000
      omega
  split
  · refine .spent (completes_four ⟨by omega, by omega⟩ (by omega) ?_ ?_ ?_ ?_) <;> decide
  · exact .fault

theorem readOctet_reads {state : Utf8State} {spent : List UInt8} (stands : state.Spent spent)
    (octet : UInt8) : Reads spent octet (readOctet state octet) := by
  cases state with
  | between =>
    rw [show spent = [] from stands]
    exact beginChar_reads octet
  | inside low high following bits =>
    have completes : Completes spent low high bits following := stands
    by_cases within : low ≤ octet ∧ octet ≤ high
    · cases following with
      | zero =>
        simp only [readOctet, if_pos within]
        exact .whole (completes octet within)
      | succ following =>
        simp only [readOctet, if_pos within]
        exact .spent (completes octet within)
    · simp only [readOctet, if_neg within]
      exact .fault

/-- The characters that a reader makes of octets without a fault are spelled by what it had spent
before and these octets. -/
theorem spelled_of_readOctets (state : Utf8State) (spent : List UInt8) {octets : List UInt8}
    {cs : List Char} (stands : state.Spent spent) (read : readOctets state octets = cs.map some) :
    cs.flatMap String.utf8EncodeChar = spent ++ octets := by
  induction octets generalizing state spent cs with
  | nil =>
    cases state with
    | between =>
      cases cs with
      | nil => rw [show spent = [] from stands]; rfl
      | cons => cases read
    | inside => cases cs <;> cases read
  | cons octet rest ih =>
    have step := readOctet_reads stands octet
    rw [readOctets_cons] at read
    generalize readOctet state octet = reached at read step
    cases step with
    | whole spells =>
      cases cs with
      | nil => cases read
      | cons c cs =>
        obtain ⟨same, read⟩ := List.cons.inj read
        rw [List.flatMap_cons, ← Option.some.inj same, spells, ih .between [] rfl read]
        simp
    | spent completes =>
      rw [ih (.inside ..) (spent ++ [octet]) completes read]
      simp
    | fault => cases cs <;> cases read

theorem mapM_id_eq_some_iff {found : List (Option Char)} {cs : List Char} :
    found.mapM id = some cs ↔ found = cs.map some := by
  induction found generalizing cs with
  | nil => cases cs <;> simp
  | cons c rest ih =>
    cases c with
    | none => cases cs <;> simp
    | some c =>
      cases cs with
      | nil => simp [Option.bind_eq_some_iff]
      | cons => simpa [Option.bind_eq_some_iff, ih] using and_comm

/-- Octets read strictly are a text exactly if they are the octets of that text. -/
theorem strict?_eq_some_iff {name : List UInt8} {text : String} :
    strict? name = some text ↔ octets text = name := by
  constructor
  · intro read
    obtain ⟨cs, found, rfl⟩ := Option.map_eq_some_iff.mp read
    rw [octets, String.toList_ofList]
    exact spelled_of_readOctets .between [] rfl (mapM_id_eq_some_iff.mp found)
  · rintro rfl
    rw [strict?, mapM_id_eq_some_iff.mpr (readOctets_octets text)]
    simp

end RadarOverlay.Text
