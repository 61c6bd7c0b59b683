import FrameSpans.Descriptor.Writer
import FrameSpans.Proofs.Descriptor.BitField
import FrameSpans.Proofs.Octets

/-!
# What the writers write

A descriptor is a row of words, `Descriptor.words`: the timestamp, four words of bit fields, and the
span words. Both writers store exactly this row (`writePacked_eq`, `writeFields_eq`), so they agree
on every buffer (`writers_agree`).

For the writer that sets one field after the other, the buffer holds a row of words at every moment,
and each setting changes the row as `Setting.onWords` says (`set_onRow`). Setting all fields of a
word that was cleared packs them, by `BitField.foldl_replace_eq_packAll`, which needs no more than
that the fields of the word are apart.
-/

namespace FrameSpans

open BitField (AllApart packAll)

namespace Descriptor

/-! ## The words of a descriptor -/

/-- The fields of the word at octet 8. -/
def captureFields (header : Header) : List (BitField × UInt32) :=
  [(Layout.captureLength, header.captureLength.toUInt32),
    (Layout.rxPort, header.rxPort.toUInt32), (Layout.txPort, header.txPort.toUInt32)]

/-- The fields of the word at octet 12. -/
def wireFields (header : Header) (records : Nat) : List (BitField × UInt32) :=
  [(Layout.wireLength, header.wireLength.toUInt32),
    (Layout.txNow, flagBit header.txFlags.now), (Layout.txIgnore, flagBit header.txFlags.ignore),
    (Layout.txCrcOverride, flagBit header.txFlags.crcOverride),
    (Layout.txSetClock, flagBit header.txFlags.setClock),
    (Layout.l2Type, header.l2Type.value.toUInt32), (Layout.recordCount, UInt32.ofNat records)]

/-- The fields of the word at octet 16. -/
def hashFields (header : Header) : List (BitField × UInt32) :=
  [(Layout.hash, header.hash), (Layout.hashType, header.hashType.toUInt32),
    (Layout.isFragment, flagBit header.isFragment),
    (Layout.isLastFragment, flagBit header.isLastFragment)]

/-- The words of a descriptor, in the order in which they are stored. -/
def words (endian : Endian) (header : Header) (records : List UInt32) : List UInt32 :=
  endian.halves header.timestamp ++
    [captureWord header, wireWord header records.length, hashWord header, header.bitmask.bits] ++
    records

/-- A descriptor has six words in front of the span words. -/
@[simp] theorem length_words (endian : Endian) (header : Header) (records : List UInt32) :
    (words endian header records).length = 6 + records.length := by
  simp [words]
  omega

/-- The fields at octet 8 are apart. -/
theorem captureFields_apart (header : Header) : AllApart (captureFields header) := by
  show [Layout.captureLength, Layout.rxPort, Layout.txPort].Pairwise BitField.Apart
  decide

/-- The fields at octet 12 are apart. -/
theorem wireFields_apart (header : Header) (records : Nat) :
    AllApart (wireFields header records) := by
  show [Layout.wireLength, Layout.txNow, Layout.txIgnore, Layout.txCrcOverride, Layout.txSetClock,
    Layout.l2Type, Layout.recordCount].Pairwise BitField.Apart
  decide

/-- The fields at octet 16 are apart. -/
theorem hashFields_apart (header : Header) : AllApart (hashFields header) := by
  show [Layout.hash, Layout.hashType, Layout.isFragment,
    Layout.isLastFragment].Pairwise BitField.Apart
  decide

/-- The word at octet 8 packs its fields. -/
theorem captureWord_eq (header : Header) : captureWord header = packAll (captureFields header) := by
  simp only [captureWord, packAll, captureFields, List.foldl_cons, List.foldl_nil, UInt32.zero_or]

/-- The word at octet 12 packs its fields. -/
theorem wireWord_eq (header : Header) (records : Nat) :
    wireWord header records = packAll (wireFields header records) := by
  simp only [wireWord, packAll, wireFields, List.foldl_cons, List.foldl_nil, UInt32.zero_or]

/-- The word at octet 16 packs its fields. -/
theorem hashWord_eq (header : Header) : hashWord header = packAll (hashFields header) := by
  simp only [hashWord, packAll, hashFields, List.foldl_cons, List.foldl_nil, UInt32.zero_or]

/-- The field at octet 20 is its word. -/
theorem replace_bitmask (word value : UInt32) : Layout.bitmask.replace word value = value := by
  have cleared : ~~~(Layout.bitmask.max <<< Layout.bitmask.shift) = 0 := by decide
  have whole : Layout.bitmask.max = -1 := by decide
  rw [BitField.replace, cleared, BitField.pack, whole, UInt32.and_neg_one, UInt32.and_zero,
    UInt32.zero_or]
  exact UInt32.shiftLeft_zero

end Descriptor

/-! ## Word by word -/

namespace Layout

/-- A descriptor takes four octets for each of its words. -/
theorem size_eq (records : Nat) : size records = 4 * (6 + records) := by
  simp only [size, headerSize, Span.wordSize]
  omega

/-- The span words stand behind 24 octets of header. -/
theorem size_eq_add (records : Nat) : size records = 24 + 4 * records := by
  rw [size_eq]
  omega

/-- There is room for a descriptor, unless there are too many records or the buffer is short. -/
theorem checkedSize_eq (records : List UInt32) (out : Octets) :
    checkedSize records out =
      if maxRecords < records.length then .error .overflow
      else if out.size < size records.length then .error .exhausted
      else .ok (size records.length) :=
  rfl

/-- A checked size is that of the descriptor, which fits into the buffer. -/
theorem of_checkedSize {records : List UInt32} {out : Octets} {bytes : Nat}
    (h : checkedSize records out = .ok bytes) :
    bytes = size records.length ∧ records.length ≤ maxRecords ∧
      size records.length ≤ out.size := by
  rw [checkedSize_eq] at h
  split at h
  · cases h
  · split at h
    · cases h
    · injection h
      omega

/-- The records fit into a table, and their descriptor into a buffer of so many octets. -/
def Accepts (octets : Nat) (records : List UInt32) : Prop :=
  records.length ≤ maxRecords ∧ size records.length ≤ octets

instance (octets : Nat) (records : List UInt32) : Decidable (Accepts octets records) :=
  inferInstanceAs (Decidable (_ ∧ _))

/-- Records that are accepted have a checked size. -/
theorem checkedSize_of_accepts {records : List UInt32} {out : Octets}
    (h : Accepts out.size records) : checkedSize records out = .ok (size records.length) := by
  obtain ⟨few, room⟩ := h
  rw [checkedSize_eq, if_neg (by omega), if_neg (by omega)]

end Layout

namespace Descriptor

/-- A descriptor stored as its words, if there is room for it. -/
def store (header : Header) (records : List UInt32) (out : Octets) (endian : Endian) :
    Except Error Nat × Octets :=
  match Layout.checkedSize records out with
  | .error error => (.error error, out)
  | .ok size => (.ok size, out.putWords endian 0 (words endian header records))

/-- The writer of whole words stores the words of the descriptor. -/
theorem writePacked_eq (header : Header) (records : List UInt32) (out : Octets)
    (endian : Endian) :
    writePacked header records out endian = store header records out endian := by
  have joined := Octets.putWords_append out endian 0 (endian.halves header.timestamp)
    ([captureWord header, wireWord header records.length, hashWord header, header.bitmask.bits] ++
      records)
  rw [Endian.length_halves, ← Octets.put64_eq, ← List.append_assoc] at joined
  unfold writePacked store
  cases Layout.checkedSize records out with
  | error error => rfl
  | ok size => exact congrArg (Prod.mk (Except.ok size)) joined.symm

/-- A descriptor is stored if there is room for it. -/
theorem store_result (header : Header) (records : List UInt32) (out : Octets) (endian : Endian) :
    (store header records out endian).1 = Layout.checkedSize records out := by
  unfold store
  split <;> simp only [*]

/-- A descriptor whose records are accepted is stored. -/
theorem store_of_accepts (header : Header) {records : List UInt32} {out : Octets} (endian : Endian)
    (accepted : Layout.Accepts out.size records) :
    store header records out endian =
      (.ok (Layout.size records.length), out.putWords endian 0 (words endian header records)) := by
  rw [store, Layout.checkedSize_of_accepts accepted]

/-- A descriptor that is not stored leaves the buffer alone. -/
theorem store_of_error {header : Header} {records : List UInt32} {out : Octets} {endian : Endian}
    {error : Error} (h : (store header records out endian).1 = .error error) :
    (store header records out endian).2 = out := by
  rw [store_result] at h
  unfold store
  rw [h]

/-- Storing a descriptor keeps the size of the buffer. -/
theorem size_store (header : Header) (records : List UInt32) (out : Octets) (endian : Endian) :
    (store header records out endian).2.size = out.size := by
  unfold store
  split
  · rfl
  · exact Octets.size_putWords ..

/-- Behind a descriptor the buffer is as it was. -/
theorem getElem?_store_of_le (header : Header) (records : List UInt32) (out : Octets)
    (endian : Endian) {i : Nat} (behind : Layout.size records.length ≤ i) :
    (store header records out endian).2[i]? = out[i]? := by
  rw [Layout.size_eq] at behind
  unfold store
  split
  · rfl
  · apply Octets.getElem?_putWords_of_le
    rw [length_words, Nat.zero_add]
    exact behind

end Descriptor

/-! ## Field by field -/

/-- The fields that a setting sets. The timestamp is not a field of a word. -/
def Setting.entries : Setting → List (BitField × UInt32)
  | .timestamp _ => []
  | .captureLength value => [(Layout.captureLength, value.toUInt32)]
  | .rxPort value => [(Layout.rxPort, value.toUInt32)]
  | .txPort value => [(Layout.txPort, value.toUInt32)]
  | .wireLength value => [(Layout.wireLength, value.toUInt32)]
  | .txFlags flags =>
    [(Layout.txNow, flagBit flags.now), (Layout.txIgnore, flagBit flags.ignore),
      (Layout.txCrcOverride, flagBit flags.crcOverride),
      (Layout.txSetClock, flagBit flags.setClock)]
  | .l2Type value => [(Layout.l2Type, value.value.toUInt32)]
  | .hashType value => [(Layout.hashType, value.toUInt32)]
  | .recordCount value => [(Layout.recordCount, value.toUInt32)]
  | .fragment isFragment isLast =>
    [(Layout.isFragment, flagBit isFragment), (Layout.isLastFragment, flagBit isLast)]
  | .hash value => [(Layout.hash, value)]
  | .bitmask value => [(Layout.bitmask, value.bits)]

/-- A row of words with one field of it set. -/
def setEntry (words : List UInt32) (entry : BitField × UInt32) : List UInt32 :=
  words.modify (entry.1.word / 4) fun word => entry.1.replace word entry.2

/-- The word that setting fields one after the other makes of a word. -/
def replaceAll (entries : List (BitField × UInt32)) (word : UInt32) : UInt32 :=
  entries.foldl (fun word entry => entry.1.replace word entry.2) word

/-- What a setting makes of the words of a descriptor. -/
def Setting.onWords (endian : Endian) (words : List UInt32) : Setting → List UInt32
  | .timestamp value => endian.halves value ++ words.drop 2
  | setting => setting.entries.foldl setEntry words

/-- The fields of a header, in the order in which they stand. The timestamp is not one of them. -/
def Layout.fields : List BitField :=
  [captureLength, rxPort, txPort, wireLength, txNow, txIgnore, txCrcOverride, txSetClock, l2Type,
    recordCount, hash, hashType, isFragment, isLastFragment, bitmask]

/-- A setting is about fields of a header. -/
theorem Setting.entries_fields (setting : Setting) :
    ∀ entry ∈ setting.entries, entry.1 ∈ Layout.fields := by
  intro entry hentry
  cases setting <;> simp only [entries, List.mem_cons, List.not_mem_nil, or_false] at hentry
  case txFlags => rcases hentry with rfl | rfl | rfl | rfl <;> (dsimp only; decide)
  case fragment => rcases hentry with rfl | rfl <;> (dsimp only; decide)
  all_goals
    subst hentry
    dsimp only
    decide

/-- A setting is about fields of the six words of a header. -/
theorem Setting.entries_inside (setting : Setting) :
    ∀ entry ∈ setting.entries, entry.1.word % 4 = 0 ∧ entry.1.word / 4 < 6 := by
  have placed : ∀ field ∈ Layout.fields, field.word % 4 = 0 ∧ field.word / 4 < 6 := by decide
  exact fun entry member => placed entry.1 (setting.entries_fields entry member)

/-- Setting a field keeps the number of words. -/
@[simp] theorem length_setEntry (words : List UInt32) (entry : BitField × UInt32) :
    (setEntry words entry).length = words.length :=
  List.length_modify ..

/-- Setting fields keeps the number of words. -/
@[simp] theorem length_foldl_setEntry (words : List UInt32) (entries : List (BitField × UInt32)) :
    (entries.foldl setEntry words).length = words.length := by
  induction entries generalizing words with
  | nil => rfl
  | cons entry rest ih => rw [List.foldl_cons, ih, length_setEntry]

/-- Setting fields of one word changes that word. -/
theorem foldl_setEntry_of_word {entries : List (BitField × UInt32)} {i : Nat}
    (same : ∀ field ∈ entries.map Prod.fst, field.word / 4 = i) (words : List UInt32) :
    entries.foldl setEntry words = words.modify i (replaceAll entries) := by
  induction entries generalizing words with
  | nil => exact (List.modify_id i words).symm
  | cons entry rest ih =>
    obtain ⟨here, others⟩ := List.forall_mem_cons.mp same
    rw [List.foldl_cons, ih others, setEntry, here, List.modify_modify_eq]
    rfl

/-- A setting of fields sets them one after the other. -/
theorem Setting.onWords_of_fields (endian : Endian) (words : List UInt32) {setting : Setting}
    (h : setting.entries ≠ []) :
    setting.onWords endian words = setting.entries.foldl setEntry words := by
  cases setting with
  | timestamp value => exact absurd rfl h
  | _ => rfl

/-- Settings of fields set the fields of all of them. -/
theorem Setting.foldl_onWords_of_fields (endian : Endian) {settings : List Setting}
    (h : ∀ setting ∈ settings, setting.entries ≠ []) (words : List UInt32) :
    settings.foldl (onWords endian) words = (settings.flatMap entries).foldl setEntry words := by
  induction settings generalizing words with
  | nil => rfl
  | cons setting rest ih =>
    obtain ⟨here, others⟩ := List.forall_mem_cons.mp h
    rw [List.foldl_cons, ih others, onWords_of_fields endian words here, List.flatMap_cons,
      List.foldl_append]

/-- A setting keeps the number of words of a row that holds a header. -/
theorem Setting.length_onWords (endian : Endian) {words : List UInt32} (h : 6 ≤ words.length)
    (setting : Setting) : (setting.onWords endian words).length = words.length := by
  unfold onWords
  split
  · rw [List.length_append, Endian.length_halves, List.length_drop]
    omega
  · exact length_foldl_setEntry ..

namespace FieldWriter

/-- A writer whose buffer starts with a row of words. -/
def onRow (out : Octets) (endian : Endian) (words : List UInt32) : FieldWriter :=
  ⟨out.putWords endian 0 words, endian⟩

/-- A field of the row is set in its word. -/
theorem setField_onRow {out : Octets} {words : List UInt32} (endian : Endian)
    (room : 4 * words.length ≤ out.size) {field : BitField} (aligned : field.word % 4 = 0)
    (inside : field.word / 4 < words.length) (value : UInt32) :
    (onRow out endian words).setField field value =
      onRow out endian (setEntry words (field, value)) := by
  have position : 0 + 4 * (field.word / 4) = field.word := by omega
  -- The writer reads the word back, which is that of the row, and stores what it made of it.
  have stored := Octets.stored32?_putWords out endian 0 words inside (by omega)
  have replaced := Octets.put32_putWords out endian 0 inside
    (field.replace words[field.word / 4] value)
  rw [position] at stored replaced
  unfold setField onRow
  dsimp only
  rw [stored]
  dsimp only
  rw [replaced, setEntry, List.modify_eq_set, List.getElem?_eq_getElem inside]
  rfl

/-- Fields of the row are set one after the other. -/
theorem foldl_setField_onRow {out : Octets} {words : List UInt32} (endian : Endian)
    (room : 4 * words.length ≤ out.size) {entries : List (BitField × UInt32)}
    (inside : ∀ entry ∈ entries, entry.1.word % 4 = 0 ∧ entry.1.word / 4 < words.length) :
    entries.foldl (fun writer entry => writer.setField entry.1 entry.2)
        (onRow out endian words) =
      onRow out endian (entries.foldl setEntry words) := by
  induction entries generalizing words with
  | nil => rfl
  | cons entry rest ih =>
    obtain ⟨aligned, within⟩ := inside entry List.mem_cons_self
    rw [List.foldl_cons, List.foldl_cons, setField_onRow endian room aligned within]
    apply ih
    · rw [length_setEntry]
      exact room
    · intro other hother
      rw [length_setEntry]
      exact inside other (List.mem_cons_of_mem _ hother)

/-- A timestamp is set in the first two words of the row. -/
theorem set_timestamp_onRow (out : Octets) {words : List UInt32} (endian : Endian)
    (inside : 2 ≤ words.length) (value : UInt64) :
    (onRow out endian words).set (.timestamp value) =
      onRow out endian (endian.halves value ++ words.drop 2) := by
  have length : (words.take 2).length = (endian.halves value).length := by
    rw [List.length_take, Endian.length_halves]
    omega
  have replaced := Octets.putWords_putWords_within out endian 0 [] (words.take 2)
    (endian.halves value) (words.drop 2) length
  rw [List.nil_append, List.take_append_drop] at replaced
  unfold set onRow
  dsimp only
  rw [Octets.put64_eq]
  exact congrArg (FieldWriter.mk · endian) replaced

/-- A setting of fields is carried out one field after the other. -/
theorem set_of_fields (writer : FieldWriter) {setting : Setting} (h : setting.entries ≠ []) :
    writer.set setting =
      setting.entries.foldl (fun writer entry => writer.setField entry.1 entry.2) writer := by
  cases setting with
  | timestamp value => exact absurd rfl h
  | _ => rfl

/-- A setting changes the words of the row. -/
theorem set_onRow {out : Octets} {words : List UInt32} (endian : Endian)
    (room : 4 * words.length ≤ out.size) (header : 6 ≤ words.length) (setting : Setting) :
    (onRow out endian words).set setting = onRow out endian (setting.onWords endian words) := by
  by_cases fields : setting.entries = []
  · cases setting with
    | timestamp value => exact set_timestamp_onRow out endian (by omega) value
    | _ => cases fields
  · -- The fields of a header stand in its six words, and the row has at least as many.
    have inside : ∀ entry ∈ setting.entries,
        entry.1.word % 4 = 0 ∧ entry.1.word / 4 < words.length := by
      intro entry hentry
      obtain ⟨aligned, within⟩ := setting.entries_inside entry hentry
      exact ⟨aligned, by omega⟩
    rw [set_of_fields _ fields, foldl_setField_onRow endian room inside,
      Setting.onWords_of_fields endian words fields]

/-- Settings change the words of the row one after the other. -/
theorem foldl_set_onRow {out : Octets} {words : List UInt32} (endian : Endian)
    (room : 4 * words.length ≤ out.size) (header : 6 ≤ words.length) (settings : List Setting) :
    settings.foldl set (onRow out endian words) =
      onRow out endian (settings.foldl (Setting.onWords endian) words) := by
  induction settings generalizing words with
  | nil => rfl
  | cons setting rest ih =>
    have length := setting.length_onWords endian header
    rw [List.foldl_cons, List.foldl_cons, set_onRow endian room header]
    exact ih (by omega) (by omega)

/-- A writer on a buffer with room for a header starts with a row of cleared words. -/
theorem ofBuffer_eq {out : Octets} (room : Layout.headerSize ≤ out.size) (endian : Endian) :
    ofBuffer out endian = .ok (onRow out endian (List.replicate 6 0)) := by
  have cleared := Octets.put_replicate_zero out endian 0 6
  rw [ofBuffer, if_neg (by omega)]
  exact congrArg (fun out => Except.ok (FieldWriter.mk out endian)) cleared

/-- The number of records that a table may hold is kept in an octet. -/
theorem toUInt32_count {count : Nat} (few : count ≤ maxRecords) :
    (UInt8.ofNat count).toUInt32 = UInt32.ofNat count := by
  have small : count < 256 := Nat.lt_of_le_of_lt few (by decide)
  apply UInt32.toNat_inj.mp
  rw [UInt8.toNat_toUInt32, UInt8.toNat_ofNat_of_lt' small,
    UInt32.toNat_ofNat_of_lt' (Nat.lt_trans small (by decide))]

/-- Records that are accepted go behind the header, and their number is set in it. -/
theorem setRecords_of_accepts {out : Octets} {words records : List UInt32} (endian : Endian)
    (header : words.length = 6) (accepted : Layout.Accepts out.size records) :
    (onRow out endian words).setRecords records =
      ((onRow (out.putWords endian Layout.headerSize records) endian words).set
        (.recordCount (UInt8.ofNat records.length)), .ok (Layout.size records.length)) := by
  have fits : Layout.Accepts (onRow out endian words).out.size records := by
    rw [onRow, Octets.size_putWords]
    exact accepted
  -- The records stand behind the header, so they may as well be written first.
  have behind : (onRow out endian words).out.putWords endian Layout.headerSize records =
      (out.putWords endian Layout.headerSize records).putWords endian 0 words :=
    Octets.putWords_comm out endian (by rw [header]; decide)
  rw [setRecords, Layout.checkedSize_of_accepts fits]
  exact congrArg (fun out => ((FieldWriter.mk out endian).set
    (.recordCount (UInt8.ofNat records.length)), Except.ok (Layout.size records.length))) behind

/-- The records go behind the six words of a header, in which their number is set. -/
theorem setRecords_onRow {out : Octets} {words records : List UInt32} (endian : Endian)
    (header : words.length = 6) {size : Nat} (checked : Layout.checkedSize records out = .ok size) :
    (onRow out endian words).setRecords records =
      (onRow out endian
        ((Setting.recordCount (UInt8.ofNat records.length)).onWords endian (words ++ records)),
        .ok size) := by
  obtain ⟨rfl, few, room⟩ := Layout.of_checkedSize checked
  have length : (words ++ records).length = 6 + records.length := by
    rw [List.length_append, header]
  have behind : onRow (out.putWords endian Layout.headerSize records) endian words =
      onRow out endian (words ++ records) := by
    rw [onRow, onRow, Octets.putWords_append, header]
    exact congrArg (FieldWriter.mk · endian)
      (Octets.putWords_comm out endian (by rw [header]; decide)).symm
  rw [setRecords_of_accepts endian header ⟨few, room⟩, behind]
  rw [Layout.size_eq] at room
  rw [set_onRow endian (by omega) (by omega)]

end FieldWriter

namespace Descriptor

/-- The fields at octet 16, in the order in which the settings set them. -/
def hashSettings (header : Header) : List (BitField × UInt32) :=
  [(Layout.hashType, header.hashType.toUInt32), (Layout.isFragment, flagBit header.isFragment),
    (Layout.isLastFragment, flagBit header.isLastFragment), (Layout.hash, header.hash)]

/-- The fields at octet 12 that the settings set, all except the record count. -/
def wireSettings (header : Header) : List (BitField × UInt32) :=
  (wireFields header 0).take 6

/-- The words of a cleared header behind its timestamp are set one after the other. -/
theorem modify_words (endian : Endian) (timestamp : UInt64) (capture wire hash : UInt32 → UInt32)
    (protocols : UInt32 → UInt32) :
    ((((endian.halves timestamp ++ List.replicate 4 0).modify 2 capture).modify 3 wire).modify 4
        hash).modify 5 protocols =
      endian.halves timestamp ++ [capture 0, wire 0, hash 0, protocols 0] := by
  cases endian <;> rfl

/-- The settings of a header set the fields of its words one word after the other. -/
theorem foldl_settings (endian : Endian) (header : Header) :
    (settings header).foldl (Setting.onWords endian) (List.replicate 6 0) =
      endian.halves header.timestamp ++
        [replaceAll (captureFields header) 0, replaceAll (wireSettings header) 0,
          replaceAll (hashSettings header) 0, Layout.bitmask.replace 0 header.bitmask.bits] := by
  have fields : ∀ setting ∈ (settings header).tail, setting.entries ≠ [] := by
    simp only [settings, List.tail_cons, List.forall_mem_cons, Setting.entries, ne_eq,
      List.cons_ne_nil, not_false_eq_true, List.not_mem_nil, false_implies, implies_true, and_true]
  have grouped : (settings header).tail.flatMap Setting.entries =
      captureFields header ++ wireSettings header ++ hashSettings header ++
        [(Layout.bitmask, header.bitmask.bits)] := rfl
  -- The timestamp comes first and is no field. The other settings are grouped by their words.
  have first : (settings header).foldl (Setting.onWords endian) (List.replicate 6 0) =
      (settings header).tail.foldl (Setting.onWords endian)
        (Setting.onWords endian (List.replicate 6 0) (.timestamp header.timestamp)) :=
    List.foldl_cons ..
  have stamped : Setting.onWords endian (List.replicate 6 0) (.timestamp header.timestamp) =
      endian.halves header.timestamp ++ List.replicate 4 0 := rfl
  have capture : ∀ field ∈ (captureFields header).map Prod.fst, field.word / 4 = 2 := by
    show ∀ field ∈ [Layout.captureLength, Layout.rxPort, Layout.txPort], field.word / 4 = 2
    decide
  have wire : ∀ field ∈ (wireSettings header).map Prod.fst, field.word / 4 = 3 := by
    show ∀ field ∈ [Layout.wireLength, Layout.txNow, Layout.txIgnore, Layout.txCrcOverride,
      Layout.txSetClock, Layout.l2Type], field.word / 4 = 3
    decide
  have hash : ∀ field ∈ (hashSettings header).map Prod.fst, field.word / 4 = 4 := by
    show ∀ field ∈ [Layout.hashType, Layout.isFragment, Layout.isLastFragment, Layout.hash],
      field.word / 4 = 4
    decide
  have protocols : ∀ field ∈ [(Layout.bitmask, header.bitmask.bits)].map Prod.fst,
      field.word / 4 = 5 := by
    show ∀ field ∈ [Layout.bitmask], field.word / 4 = 5
    decide
  rw [first, stamped, Setting.foldl_onWords_of_fields endian fields, grouped, List.foldl_append,
    List.foldl_append, List.foldl_append, foldl_setEntry_of_word capture,
    foldl_setEntry_of_word wire, foldl_setEntry_of_word hash, foldl_setEntry_of_word protocols,
    modify_words]
  rfl

/-- The settings of a header leave it with six words. -/
theorem length_foldl_settings (endian : Endian) (header : Header) :
    ((settings header).foldl (Setting.onWords endian) (List.replicate 6 0)).length = 6 := by
  rw [foldl_settings, List.length_append, Endian.length_halves]
  rfl

/-- The fields at octet 16 are apart in either order. -/
theorem hashSettings_apart (header : Header) : AllApart (hashSettings header) := by
  show [Layout.hashType, Layout.isFragment, Layout.isLastFragment,
    Layout.hash].Pairwise BitField.Apart
  decide

/-- The order in which fields that are apart are packed does not matter. -/
theorem packAll_hashSettings (header : Header) :
    packAll (hashSettings header) = packAll (hashFields header) := by
  simp only [packAll, hashSettings, hashFields, List.foldl_cons, List.foldl_nil, UInt32.zero_or]
  rw [UInt32.or_comm, ← UInt32.or_assoc, ← UInt32.or_assoc]

/-- The settings of a header and the number of its records, set in a cleared header in front of the
records, make up the words of the descriptor. -/
theorem onWords_settings (endian : Endian) (header : Header) {records : List UInt32}
    (few : records.length ≤ maxRecords) :
    (Setting.recordCount (UInt8.ofNat records.length)).onWords endian
        ((settings header).foldl (Setting.onWords endian) (List.replicate 6 0) ++ records) =
      words endian header records := by
  have count := FieldWriter.toUInt32_count few
  have capture := BitField.foldl_replace_eq_packAll (captureFields_apart header)
  have wire := BitField.foldl_replace_eq_packAll (wireFields_apart header records.length)
  have hash := BitField.foldl_replace_eq_packAll (hashSettings_apart header)
  have same : ∀ field ∈ [(Layout.recordCount, UInt32.ofNat records.length)].map Prod.fst,
      field.word / 4 = 3 := by
    show ∀ field ∈ [Layout.recordCount], field.word / 4 = 3
    decide
  -- The number of records is the last field of its word.
  have last : Layout.recordCount.replace (replaceAll (wireSettings header) 0)
      (UInt32.ofNat records.length) = packAll (wireFields header records.length) := wire
  have field : (Setting.recordCount (UInt8.ofNat records.length)).entries ≠ [] :=
    List.cons_ne_nil _ _
  rw [Setting.onWords_of_fields endian _ field, Setting.entries, count,
    foldl_setEntry_of_word same, foldl_settings, words, captureWord_eq, wireWord_eq, hashWord_eq,
    ← packAll_hashSettings, ← capture, ← last, ← hash, replace_bitmask]
  cases endian <;> rfl

/-- The writer of fields stores the words of the descriptor. -/
theorem writeFields_eq (header : Header) (records : List UInt32) (out : Octets)
    (endian : Endian) :
    writeFields header records out endian = store header records out endian := by
  unfold writeFields store
  cases checked : Layout.checkedSize records out with
  | error error => rfl
  | ok size =>
    obtain ⟨rfl, few, room⟩ := Layout.of_checkedSize checked
    rw [Layout.size_eq] at room
    -- Settings change the row of cleared words, and then the records go behind it.
    have header : Layout.headerSize ≤ out.size := by
      rw [Layout.headerSize]
      omega
    dsimp only
    rw [FieldWriter.ofBuffer_eq header]
    dsimp only
    rw [FieldWriter.foldl_set_onRow endian (by rw [List.length_replicate]; omega)
      (Nat.le_of_eq List.length_replicate.symm), FieldWriter.setRecords_onRow endian
      (length_foldl_settings endian _) checked, onWords_settings endian _ few]
    rfl

/-! ## Agreement -/

/-- Both writers do the same to every buffer. They report too many records first and a short buffer
then, and leave the buffer alone when they report an error. What they change lies in the octets of
the descriptor. -/
theorem writers_agree (header : Header) (records : List UInt32) (out : Octets) (endian : Endian) :
    writeFields header records out endian = writePacked header records out endian ∧
      (writePacked header records out endian).1 =
        (if 32 < records.length then .error .overflow
        else if out.size < 24 + 4 * records.length then .error .exhausted
        else .ok (24 + 4 * records.length)) ∧
      (∀ error, (writePacked header records out endian).1 = .error error →
        (writePacked header records out endian).2 = out) ∧
      (writePacked header records out endian).2.size = out.size ∧
      ∀ i, 24 + 4 * records.length ≤ i →
        (writePacked header records out endian).2[i]? = out[i]? := by
  have size : Layout.size records.length = 24 + 4 * records.length := by
    rw [Layout.size_eq]
    omega
  rw [writeFields_eq, writePacked_eq]
  refine ⟨rfl, ?_, fun error => store_of_error, size_store .., fun i behind => ?_⟩
  · rw [store_result, Layout.checkedSize_eq, size]
    rfl
  · exact getElem?_store_of_le header records out endian (size ▸ behind)

end Descriptor

end FrameSpans
