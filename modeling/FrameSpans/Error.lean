/-!
# Failures

Two kinds of failure are kept apart. `Error` is what an operation on spans, descriptors and
registries reports to its caller. `Stop` is why reading a header ended early: `truncated` is the
ordinary end of a capture, `fault` is an access or a sum that a correct reader never makes. A reader
that can only stop with `truncated` is one that checks before it reads.
-/

namespace FrameSpans

/-- What an operation reports when it can not be carried out. -/
inductive Error
  /-- A value exceeds the width of the field that has to hold it. -/
  | overflow
  /-- A buffer or a table has no room left. -/
  | exhausted
  /-- The octets end before the structure they hold. -/
  | truncated
  deriving DecidableEq, Repr

/-- The text shown for an error. -/
def Error.message : Error → String
  | .overflow => "value exceeds its field width"
  | .exhausted => "capacity exhausted"
  | .truncated => "buffer truncated"

/-- Why the reading of a header stopped. -/
inductive Stop
  /-- The header was not captured completely. -/
  | truncated
  /-- An octet outside the capture was accessed, or a position left the range of offsets. -/
  | fault
  deriving DecidableEq, Repr

/-- The text shown for a stop. -/
def Stop.message : Stop → String
  | .truncated => Error.truncated.message
  | .fault => "position out of range"

end FrameSpans
