import FrameSpans.Text.Frame
import Mathlib.Data.List.Chain

/-!
# Texts that are frames

`Spells inside octets text` says that a text writes octets: two digits of either case for each, gaps
of blanks, colons and hyphens around them, and `inside` holds of what stands between the two digits
of an octet. It is a grammar, and does not refer to how texts are read: digits and separators are
told by their characters, blanks by the property of characters.

Every text in which the digits of an octet are adjacent is read as what it writes, and the first
character that is neither a digit nor part of a gap is reported (`parseFrame_of_rendering`). Reading
collects the digits of a text first (`digits_eq`) and pairs them afterwards, so a gap within an
octet goes unnoticed: the texts that are accepted are those of the grammar with gaps everywhere
(`parseFrame_eq_ok_iff`), and digits that stand alone make octets (`lone_digits_accepted`).
-/

namespace FrameSpans.Text

/-! ## Digits and gaps -/

/-- The character is the hexadecimal digit of the given value, in lower or in upper case. -/
def IsDigit (c : Char) (value : UInt8) : Prop :=
  value < 16 ∧ (c = Nat.digitChar value.toNat ∨ c = (Nat.digitChar value.toNat).toUpper)

instance (c : Char) (value : UInt8) : Decidable (IsDigit c value) :=
  inferInstanceAs (Decidable (_ ∧ _))

/-- The character is a colon, a hyphen or a blank. -/
def IsSeparator (c : Char) : Prop :=
  c = ':' ∨ c = '-' ∨ isBlank c = true

instance (c : Char) : Decidable (IsSeparator c) :=
  inferInstanceAs (Decidable (_ ∨ _))

/-- A run of separators. -/
def IsGap (text : List Char) : Prop :=
  ∀ c ∈ text, IsSeparator c

instance (text : List Char) : Decidable (IsGap text) :=
  List.decidableBAll IsSeparator text

/-- The characters that are passed over are the separators. -/
theorem isSeparator_iff (c : Char) : isSeparator c = true ↔ IsSeparator c := by
  rw [isSeparator, IsSeparator, Bool.or_eq_true, Bool.or_eq_true, beq_iff_eq, beq_iff_eq, or_assoc]

/-- A digit is one of sixteen, in one of two cases. -/
theorem IsDigit.exists_digitChar {c : Char} {value : UInt8} (h : IsDigit c value) :
    ∃ n < 16, UInt8.ofNat n = value ∧ (c = Nat.digitChar n ∨ c = (Nat.digitChar n).toUpper) := by
  obtain ⟨small, either⟩ := h
  exact ⟨value.toNat, UInt8.lt_iff_toNat_lt.mp small, UInt8.ofNat_toNat, either⟩

/-- The value of a character is that of the digit that it is. -/
theorem hexDigit?_eq_some_iff (c : Char) (value : UInt8) :
    hexDigit? c = some value ↔ IsDigit c value := by
  constructor
  · -- In each of the three ranges a digit is told by its distance from the first one.
    have decimal : ∀ n < 10, IsDigit (Char.ofNat (48 + n)) (UInt8.ofNat n) := by decide
    have lower : ∀ n < 6, IsDigit (Char.ofNat (97 + n)) (UInt8.ofNat (n + 10)) := by decide
    have upper : ∀ n < 6, IsDigit (Char.ofNat (65 + n)) (UInt8.ofNat (n + 10)) := by decide
    intro found
    unfold hexDigit? at found
    split at found
    · next range =>
      obtain ⟨least, greatest⟩ : 48 ≤ c.toNat ∧ c.toNat ≤ 57 := range
      have digit := decimal (c.toNat - 48) (by omega)
      rw [Nat.add_sub_cancel' least, Char.ofNat_toNat] at digit
      cases found
      exact digit
    · split at found
      · next range =>
        obtain ⟨least, greatest⟩ : 97 ≤ c.toNat ∧ c.toNat ≤ 102 := range
        have digit := lower (c.toNat - 97) (by omega)
        rw [Nat.add_sub_cancel' least, Char.ofNat_toNat] at digit
        cases found
        exact digit
      · split at found
        · next range =>
          obtain ⟨least, greatest⟩ : 65 ≤ c.toNat ∧ c.toNat ≤ 70 := range
          have digit := upper (c.toNat - 65) (by omega)
          rw [Nat.add_sub_cancel' least, Char.ofNat_toNat] at digit
          cases found
          exact digit
        · cases found
  · have each : ∀ n < 16, hexDigit? (Nat.digitChar n) = some (UInt8.ofNat n) ∧
        hexDigit? (Nat.digitChar n).toUpper = some (UInt8.ofNat n) := by decide
    intro digit
    obtain ⟨n, small, rfl, rfl | rfl⟩ := digit.exists_digitChar
    · exact (each n small).1
    · exact (each n small).2

/-- No digit is passed over. -/
theorem IsDigit.isSeparator_eq {c : Char} {value : UInt8} (h : IsDigit c value) :
    isSeparator c = false := by
  have each : ∀ n < 16, isSeparator (Nat.digitChar n) = false ∧
      isSeparator (Nat.digitChar n).toUpper = false := by decide
  obtain ⟨n, small, -, rfl | rfl⟩ := h.exists_digitChar
  · exact (each n small).1
  · exact (each n small).2

/-- A character that is passed over has no value. -/
theorem hexDigit?_of_isSeparator {c : Char} (h : isSeparator c = true) : hexDigit? c = none := by
  cases found : hexDigit? c with
  | none => rfl
  | some value =>
    rw [((hexDigit?_eq_some_iff c value).mp found).isSeparator_eq] at h
    cases h

/-! ## Collecting digits -/

/-- Whether a character is neither a digit nor passed over. -/
def isStray (c : Char) : Bool :=
  !isSeparator c && (hexDigit? c).isNone

/-- A character is stray if it is none that is passed over, and the digit of no value. -/
theorem isStray_iff (c : Char) :
    isStray c = true ↔ isSeparator c = false ∧ ∀ value, ¬IsDigit c value := by
  unfold isStray
  rw [Bool.and_eq_true, Bool.not_eq_true', Option.isNone_iff_eq_none,
    Option.eq_none_iff_forall_ne_some]
  exact and_congr_right' (forall_congr' fun value => not_congr (hexDigit?_eq_some_iff c value))

/-- What is passed over is not stray. -/
theorem not_isStray_of_isSeparator {c : Char} (h : isSeparator c = true) : ¬isStray c = true := by
  rw [isStray_iff, h]
  nofun

/-- A digit is not stray. -/
theorem IsDigit.not_isStray {c : Char} {value : UInt8} (h : IsDigit c value) :
    ¬isStray c = true :=
  fun stray => ((isStray_iff c).mp stray).2 value h

/-- The digits of a text are collected, or its first stray character is reported. -/
theorem digits_eq (text : List Char) :
    digits text =
      match text.find? isStray with
      | some c => .error (.invalidDigit c)
      | none => .ok (text.filterMap hexDigit?) := by
  induction text with
  | nil => rfl
  | cons c rest ih =>
    unfold digits
    split
    · next separator =>
      rw [ih, List.find?_cons_of_neg (not_isStray_of_isSeparator separator),
        List.filterMap_cons_none (hexDigit?_of_isSeparator separator)]
    · next other =>
      cases value : hexDigit? c with
      | none =>
        have stray : isStray c = true := by
          rw [isStray, Bool.eq_false_iff.mpr other, value]
          rfl
        rw [List.find?_cons_of_pos stray]
      | some digit =>
        have kept := ((hexDigit?_eq_some_iff c digit).mp value).not_isStray
        rw [ih, List.find?_cons_of_neg kept, List.filterMap_cons_some value]
        cases rest.find? isStray <;> rfl

/-- There is nothing stray in a gap. -/
theorem IsGap.find?_eq {gap : List Char} (h : IsGap gap) : gap.find? isStray = none :=
  List.find?_eq_none.mpr fun c member =>
    not_isStray_of_isSeparator ((isSeparator_iff c).mpr (h c member))

/-- There are no digits in a gap. -/
theorem IsGap.filterMap_eq {gap : List Char} (h : IsGap gap) : gap.filterMap hexDigit? = [] :=
  List.filterMap_eq_nil_iff.mpr fun c member =>
    hexDigit?_of_isSeparator ((isSeparator_iff c).mpr (h c member))

/-- A gap in front of a text is passed over. -/
theorem digits_gap_append {gap : List Char} (h : IsGap gap) (text : List Char) :
    digits (gap ++ text) = digits text := by
  rw [digits_eq, digits_eq, List.find?_append, h.find?_eq, Option.none_or, List.filterMap_append,
    h.filterMap_eq, List.nil_append]

/-- A gap behind a text is passed over. -/
theorem digits_append_gap (text : List Char) {gap : List Char} (h : IsGap gap) :
    digits (text ++ gap) = digits text := by
  rw [digits_eq, digits_eq, List.find?_append, h.find?_eq, Option.or_none, List.filterMap_append,
    h.filterMap_eq, List.append_nil]

/-- A digit in front of a text is collected. -/
theorem digits_cons {c : Char} {value : UInt8} (h : IsDigit c value) (text : List Char) :
    digits (c :: text) = (digits text).map (value :: ·) := by
  rw [digits, if_neg (Bool.eq_false_iff.mp h.isSeparator_eq), (hexDigit?_eq_some_iff c value).mpr h]
  cases digits text <;> rfl

/-- Values that are collected are those of digits. -/
theorem lt_of_mem_digits {text : List Char} {values : List UInt8} (h : digits text = .ok values) :
    ∀ value ∈ values, value < 16 := by
  rw [digits_eq] at h
  split at h
  · cases h
  · cases h
    intro value member
    obtain ⟨c, -, found⟩ := List.mem_filterMap.mp member
    exact ((hexDigit?_eq_some_iff c value).mp found).1

/-- A text of which no digit is collected is a gap. -/
theorem isGap_of_digits {text : List Char} (h : digits text = .ok []) : IsGap text := by
  induction text with
  | nil => nofun
  | cons c rest ih =>
    unfold digits at h
    split at h
    · next separator =>
      exact List.forall_mem_cons.mpr ⟨(isSeparator_iff c).mp separator, ih h⟩
    · split at h
      · cases h
      · split at h <;> cases h

/-- In front of the first digit that is collected there is a gap. -/
theorem exists_of_digits {text : List Char} {value : UInt8} {values : List UInt8}
    (h : digits text = .ok (value :: values)) :
    ∃ gap c rest, text = gap ++ c :: rest ∧ IsGap gap ∧ IsDigit c value ∧
      digits rest = .ok values := by
  induction text with
  | nil => cases h
  | cons c rest ih =>
    unfold digits at h
    split at h
    · next separator =>
      obtain ⟨gap, digit, behind, rfl, isGap, collected⟩ := ih h
      have longer : IsGap (c :: gap) :=
        List.forall_mem_cons.mpr ⟨(isSeparator_iff c).mp separator, isGap⟩
      exact ⟨c :: gap, digit, behind, rfl, longer, collected⟩
    · split at h
      · cases h
      · next digit found =>
        split at h
        · cases h
        · next more collected =>
          cases h
          exact ⟨[], c, rest, rfl, nofun, (hexDigit?_eq_some_iff c value).mp found, collected⟩

/-! ## Pairing digits -/

/-- The values of the two digits of an octet. -/
def halves (octet : UInt8) : List UInt8 :=
  [octet / 16, octet % 16]

/-- The octet of two digits is the number that they write. -/
theorem toNat_joined {high low : UInt8} (upper : high < 16) (lower : low < 16) :
    (high <<< 4 ||| low).toNat = high.toNat * 16 + low.toNat := by
  have upper : high.toNat < 16 := UInt8.lt_iff_toNat_lt.mp upper
  have lower : low.toNat < 2 ^ 4 := UInt8.lt_iff_toNat_lt.mp lower
  rw [UInt8.toNat_or, UInt8.toNat_shiftLeft]
  show high.toNat <<< 4 % 2 ^ 8 ||| low.toNat = high.toNat * 16 + low.toNat
  rw [Nat.mod_eq_of_lt (by rw [Nat.shiftLeft_eq]; omega), ← Nat.shiftLeft_add_eq_or_of_lt lower,
    Nat.shiftLeft_eq]

/-- The halves of an octet are joined to it. -/
theorem joined_halves (octet : UInt8) : (octet / 16) <<< 4 ||| octet % 16 = octet := by
  have bound := octet.toNat_lt
  have upper : (octet / 16).toNat = octet.toNat / 16 := UInt8.toNat_div octet 16
  have lower : (octet % 16).toNat = octet.toNat % 16 := UInt8.toNat_mod octet 16
  apply UInt8.toNat_inj.mp
  rw [toNat_joined, upper, lower]
  · omega
  · rw [UInt8.lt_iff_toNat_lt, upper]
    show octet.toNat / 16 < 16
    omega
  · rw [UInt8.lt_iff_toNat_lt, lower]
    exact Nat.mod_lt _ (by decide)

/-- Two digits are the halves of the octet that they are joined to. -/
theorem halves_joined {high low : UInt8} (upper : high < 16) (lower : low < 16) :
    halves (high <<< 4 ||| low) = [high, low] := by
  have joined := toNat_joined upper lower
  rw [UInt8.lt_iff_toNat_lt] at upper lower
  have bounds : high.toNat < 16 ∧ low.toNat < 16 := ⟨upper, lower⟩
  have first : (high <<< 4 ||| low) / 16 = high := by
    apply UInt8.toNat_inj.mp
    rw [UInt8.toNat_div, joined]
    show (high.toNat * 16 + low.toNat) / 16 = high.toNat
    omega
  have second : (high <<< 4 ||| low) % 16 = low := by
    apply UInt8.toNat_inj.mp
    rw [UInt8.toNat_mod, joined]
    show (high.toNat * 16 + low.toNat) % 16 = low.toNat
    omega
  rw [halves, first, second]

/-- The digits of octets are paired to them. -/
theorem pairUp_halves (octets : List UInt8) : pairUp (octets.flatMap halves) = .ok octets := by
  induction octets with
  | nil => rfl
  | cons octet rest ih =>
    show pairUp (octet / 16 :: octet % 16 :: rest.flatMap halves) = .ok (octet :: rest)
    rw [pairUp, ih]
    show Except.ok (((octet / 16) <<< 4 ||| octet % 16) :: rest) = Except.ok (octet :: rest)
    rw [joined_halves]

/-- Digits that were paired are those of the octets. -/
theorem eq_halves_of_pairUp {values octets : List UInt8} (h : pairUp values = .ok octets)
    (small : ∀ value ∈ values, value < 16) : values = octets.flatMap halves := by
  fun_induction pairUp values generalizing octets with
  | case1 =>
    cases h
    rfl
  | case2 | case3 => cases h
  | case4 high low rest more paired ih =>
    cases h
    obtain ⟨upper, lower, others⟩ :
        high < 16 ∧ low < 16 ∧ ∀ value ∈ rest, value < 16 := by
      simpa only [List.forall_mem_cons] using small
    rw [List.flatMap_cons, halves_joined upper lower, ← ih paired others]
    rfl

/-! ## Texts that write octets -/

/-- The text writes octets, with gaps around them. What stands between the two digits of an octet
has the property `inside`. -/
inductive Spells (inside : List Char → Prop) : List UInt8 → List Char → Prop
  /-- There is no octet, only a gap. -/
  | nothing {gap : List Char} (outside : IsGap gap) : Spells inside [] gap
  /-- There is an octet behind a gap, and others may follow. -/
  | octet {octets : List UInt8} {octet : UInt8} {gap between rest : List Char} {high low : Char}
    (outside : IsGap gap) (upper : IsDigit high (octet / 16)) (within : inside between)
    (lower : IsDigit low (octet % 16)) (others : Spells inside octets rest) :
    Spells inside (octet :: octets) (gap ++ high :: (between ++ low :: rest))

/-- A text of a grammar is one of every wider grammar. -/
theorem Spells.mono {inside wider : List Char → Prop} (widen : ∀ gap, inside gap → wider gap)
    {octets : List UInt8} {text : List Char} (h : Spells inside octets text) :
    Spells wider octets text := by
  induction h with
  | nothing outside => exact .nothing outside
  | octet outside upper within lower _ ih => exact .octet outside upper (widen _ within) lower ih

/-- The digits of a text that writes octets are theirs. -/
theorem Spells.digits_eq {octets : List UInt8} {text : List Char} (h : Spells IsGap octets text) :
    digits text = .ok (octets.flatMap halves) := by
  induction h with
  | nothing outside => rw [Text.digits_eq, outside.find?_eq, outside.filterMap_eq]; rfl
  | octet outside upper within lower _ ih =>
    rw [digits_gap_append outside, digits_cons upper, digits_gap_append within, digits_cons lower,
      ih]
    rfl

/-- A text with the digits of octets writes them, with gaps anywhere. -/
theorem spells_of_digits {octets : List UInt8} {text : List Char}
    (h : digits text = .ok (octets.flatMap halves)) : Spells IsGap octets text := by
  induction octets generalizing text with
  | nil => exact .nothing (isGap_of_digits h)
  | cons octet rest ih =>
    obtain ⟨gap, high, behind, rfl, outside, upper, second⟩ := exists_of_digits h
    obtain ⟨between, low, last, rfl, within, lower, others⟩ := exists_of_digits second
    exact .octet outside upper within lower (ih others)

/-! ## Trimming -/

/-- Blanks at the start of a text are a gap. -/
theorem isGap_takeWhile (text : List Char) : IsGap (text.takeWhile isBlank) := by
  have taken : (text.takeWhile isBlank).all isBlank = true := List.all_takeWhile
  exact fun c member => .inr (.inr (List.all_eq_true.mp taken c member))

/-- What is trimmed behind a text is a gap. -/
theorem exists_trimmed (text : List Char) :
    ∃ gap, text.dropWhile isBlank = trimBlanks text ++ gap ∧ IsGap gap := by
  let rear := (text.dropWhile isBlank).reverse
  refine ⟨(rear.takeWhile isBlank).reverse, ?_, fun c member => ?_⟩
  · show _ = (rear.dropWhile isBlank).reverse ++ (rear.takeWhile isBlank).reverse
    rw [← List.reverse_append, List.takeWhile_append_dropWhile, List.reverse_reverse]
  · exact isGap_takeWhile rear c (List.mem_reverse.mp member)

/-- A gap behind a text is no part of its marker. -/
theorem dropMarker_append_gap (text : List Char) {gap : List Char} (h : IsGap gap) :
    dropMarker (text ++ gap) = dropMarker text ++ gap := by
  fun_cases dropMarker text with
  | case1 rest => rfl
  | case2 _ unmarked =>
    -- A marker would have to start in the text and end in the gap, or lie in the gap.
    unfold dropMarker
    split
    · next rest marked =>
      match text with
      | [] =>
        have zero := h '0' (by rw [show gap = _ from marked]; exact List.mem_cons_self)
        exact absurd zero (by decide)
      | [c] =>
        obtain ⟨-, behind⟩ := List.cons.inj marked
        have letter := h 'x' (by rw [show gap = _ from behind]; exact List.mem_cons_self)
        exact absurd letter (by decide)
      | a :: b :: others =>
        obtain ⟨rfl, behind⟩ := List.cons.inj marked
        obtain ⟨rfl, -⟩ := List.cons.inj behind
        exact absurd rfl (unmarked others)
    · rfl

/-- A text of which digits are collected has no marker. -/
theorem dropMarker_of_digits {text : List Char} {values : List UInt8}
    (h : digits text = .ok values) : dropMarker text = text := by
  unfold dropMarker
  split
  · next rest =>
    have zero : IsDigit '0' 0 := by decide
    rw [digits_cons zero] at h
    cases h
  · rfl

/-- What is trimmed behind a text makes no difference to its digits. -/
theorem digits_trimBlanks (text : List Char) :
    digits (dropMarker (trimBlanks text)) = digits (dropMarker (text.dropWhile isBlank)) := by
  obtain ⟨gap, trimmed, isGap⟩ := exists_trimmed text
  rw [trimmed, dropMarker_append_gap _ isGap, digits_append_gap _ isGap]

/-! ## Frames -/

/-- The texts that are frames are those that write octets behind their marker, in digits of either
case, with gaps around and within the octets; and the octets are those that they write. -/
theorem parseFrame_eq_ok_iff (text : String) (octets : Octets) :
    parseFrame text = .ok octets ↔
      Spells IsGap octets.toList (dropMarker (trimBlanks text.toList)) := by
  unfold parseFrame
  constructor
  · intro parsed
    split at parsed
    · cases parsed
    · next values collected =>
      split at parsed
      · cases parsed
      · next paired =>
        cases parsed
        rw [eq_halves_of_pairUp paired (lt_of_mem_digits collected)] at collected
        exact spells_of_digits collected
  · intro spells
    rw [spells.digits_eq]
    dsimp only
    rw [pairUp_halves]

/-- Digits that stand alone are paired with one another: no two digits are adjacent in this text,
and it is a frame of two octets. -/
theorem lone_digits_accepted :
    parseFrame "1:2 3-4" = .ok #[0x12, 0x34] ∧
      ¬∃ front high low rear, "1:2 3-4".toList = front ++ high :: low :: rear ∧
        (hexDigit? high).isSome = true ∧ (hexDigit? low).isSome = true := by
  refine ⟨rfl, ?_⟩
  rintro ⟨front, high, low, rear, split, first, second⟩
  have alone : "1:2 3-4".toList.IsChain fun a b => hexDigit? a = none ∨ hexDigit? b = none := by
    decide +kernel
  rw [split] at alone
  obtain ⟨-, none | none, -⟩ := List.isChain_append_cons_cons.mp alone
  · rw [none] at first
    cases first
  · rw [none] at second
    cases second

/-- Octets are read if their digits are collected from the text behind its blanks and its marker. -/
theorem parseFrame_of_digits {text : List Char} {octets : List UInt8}
    (h : digits (dropMarker (text.dropWhile isBlank)) = .ok (octets.flatMap halves)) :
    parseFrame (String.ofList text) = .ok octets.toArray := by
  rw [parseFrame, String.toList_ofList, digits_trimBlanks, h]
  dsimp only
  rw [pairUp_halves]

/-- Every text that writes octets with the two digits of each adjacent is the frame of these octets,
with any gaps around the octets and, behind the blanks in front of it, with or without a marker.
Every text with a stray character behind its marker is refused, and the first of these characters is
reported, whatever the number of digits. -/
theorem parseFrame_of_rendering :
    (∀ (octets : List UInt8) (front marker text : List Char),
      (∀ c ∈ front, isBlank c = true) → marker = [] ∨ marker = ['0', 'x'] →
        Spells (· = []) octets text →
          parseFrame (String.ofList (front ++ (marker ++ text))) = .ok octets.toArray) ∧
    ∀ (text : String) (before after : List Char) (c : Char),
      dropMarker (trimBlanks text.toList) = before ++ c :: after →
        (∀ b ∈ before, IsSeparator b ∨ ∃ value, IsDigit b value) →
          ¬IsSeparator c → (∀ value, ¬IsDigit c value) →
            parseFrame text = .error (.invalidDigit c) := by
  constructor
  · intro octets front marker text blank marked spells
    have adjacent : ∀ gap : List Char, gap = [] → IsGap gap := by
      rintro gap rfl
      nofun
    have collected := (spells.mono adjacent).digits_eq
    apply parseFrame_of_digits
    rw [List.dropWhile_append_of_pos blank]
    rcases marked with rfl | rfl
    · -- The blanks in front of the first octet are dropped as part of its gap.
      have skipped : digits (text.dropWhile isBlank) = digits text := by
        rw [← digits_gap_append (isGap_takeWhile text), List.takeWhile_append_dropWhile]
      rw [List.nil_append, dropMarker_of_digits (skipped.trans collected), skipped, collected]
    · exact collected
  · intro text before after c left known separator digit
    have stray : isStray c = true := by
      rw [isStray_iff, ← Bool.not_eq_true, isSeparator_iff]
      exact ⟨separator, digit⟩
    have kept : ∀ b ∈ before, (!isStray b) = true := by
      intro b member
      rw [Bool.not_eq_true', Bool.eq_false_iff]
      rcases known b member with passed | ⟨value, found⟩
      · exact not_isStray_of_isSeparator ((isSeparator_iff b).mpr passed)
      · exact found.not_isStray
    have first : (before ++ c :: after).find? isStray = some c :=
      List.find?_eq_some_iff_append.mpr ⟨stray, before, after, rfl, kept⟩
    rw [parseFrame, left, digits_eq, first]

/-- A text with a marker, digits in both cases and gaps of several characters, and one with three
digits and two stray characters. -/
theorem parseFrame_of_rendering_marked :
    let front := [' ', '\t']
    let text := [':', 'a', 'B', '-', ' ', '0', 'C', '\n']
    (∀ c ∈ front, isBlank c = true) ∧ Spells (· = []) [0xab, 0x0c] text ∧
      parseFrame (String.ofList (front ++ (['0', 'x'] ++ text))) = .ok #[0xab, 0x0c] ∧
      dropMarker (trimBlanks "0x1 g2h3".toList) = ['1', ' '] ++ 'g' :: ['2', 'h', '3'] ∧
      parseFrame "0x1 g2h3" = .error (.invalidDigit 'g') := by
  intro front text
  have blank : ∀ c ∈ front, isBlank c = true :=
    List.forall_mem_cons.mpr ⟨rfl, List.forall_mem_singleton.mpr rfl⟩
  have last : Spells (· = []) [] ['\n'] := .nothing (by decide)
  have second : Spells (· = []) [0x0c] (['-', ' '] ++ '0' :: ([] ++ 'C' :: ['\n'])) :=
    .octet (by decide) (by decide) rfl (by decide) last
  have both : Spells (· = []) [0xab, 0x0c]
      ([':'] ++ 'a' :: ([] ++ 'B' :: (['-', ' '] ++ '0' :: ([] ++ 'C' :: ['\n'])))) :=
    .octet (by decide) (by decide) rfl (by decide) second
  have left : dropMarker (trimBlanks "0x1 g2h3".toList) = ['1', ' '] ++ 'g' :: ['2', 'h', '3'] :=
    rfl
  have known : ∀ b ∈ ['1', ' '], IsSeparator b ∨ ∃ value, IsDigit b value :=
    List.forall_mem_cons.mpr
      ⟨.inr ⟨1, by decide⟩, List.forall_mem_singleton.mpr (.inl (by decide))⟩
  have stray : ∀ value, ¬IsDigit 'g' value := fun value digit =>
    absurd ((hexDigit?_eq_some_iff 'g' value).mpr digit) nofun
  exact ⟨blank, both, parseFrame_of_rendering.1 _ front _ text blank (.inr rfl) both, left,
    parseFrame_of_rendering.2 _ _ _ 'g' left known (by decide) stray⟩

end FrameSpans.Text
