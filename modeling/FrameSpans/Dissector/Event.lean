import FrameSpans.Handler

/-!
# Events of a dissection

A dissection leaves a trace: one `Event` for everything that was recorded, refused, entered or asked,
in the order in which it happened. Some events are also worth a line in a log (`Event.log?`). Those
that refuse a span are, and theirs are the only lines that start with the span.
-/

namespace FrameSpans

/-- Why a span was not recorded. -/
inductive Refusal
  /-- The record table is full. -/
  | full
  /-- The span does not end within the `captureLength` octets of the capture. -/
  | outside (captureLength : Nat)
  /-- The span has no word. -/
  | unencodable
  /-- There is no record to replace. -/
  | vacant
  deriving DecidableEq, Repr

/-- What a stop put an end to. -/
inductive Branch
  /-- The dissection of a capture of the given length. -/
  | capture (length : Nat)
  /-- The dissection of an encapsulated packet that a handler asked for. -/
  | encapsulated (inner : Encapsulation) (offset : Nat)
  deriving DecidableEq, Repr

/-- Something that happened during a dissection. -/
inductive Event
  /-- A span was recorded. -/
  | stored (span : Span)
  /-- The record at an index was replaced by a wider span. -/
  | widened (index : Nat) (span : Span)
  /-- A span was not recorded. -/
  | refused (span : Span) (reason : Refusal)
  /-- The fragmentation flags were set. -/
  | fragment (isLast : Bool)
  /-- The payload of an IP header was reached. -/
  | payload (protocol : IpProtocol) (offset : Nat) (parent : ProtocolId)
  /-- A header was left alone. -/
  | remark (remark : Remark)
  /-- An encapsulated packet was entered; the depth counts it. -/
  | entered (depth : Nat)
  /-- The dissection of an encapsulated packet ended. -/
  | left
  /-- An encapsulated packet was not entered, because the depth is exhausted. -/
  | depthReached (depth : Nat)
  /-- A payload type had no handling, and there is no registry to ask. -/
  | unhandled (id : ProtocolId) (value : UInt16)
  /-- The handler in a slot of the registry was asked. -/
  | asked (slot : Nat) (call : Consultation)
  /-- A handler left a note. -/
  | note (text : String)
  /-- A handler failed. -/
  | handlerFault
  /-- A branch of the dissection stopped. -/
  | stopped (branch : Branch) (stop : Stop)
  deriving DecidableEq, Repr

/-! ## Log lines -/

/-- How much detail a log line is about. -/
inductive LogLevel
  /-- Something that a user may look for. -/
  | debug
  /-- Something that happens all the time. -/
  | trace
  deriving DecidableEq, Repr

/-- The name shown for a level. -/
def LogLevel.name : LogLevel → String
  | .debug => "DEBUG"
  | .trace => "TRACE"

/-- A line of the log. -/
structure LogRecord where
  /-- How much detail the line is about. -/
  level : LogLevel
  /-- The text of the line. -/
  text : String
  deriving DecidableEq, Repr

/-- The line as it is shown. -/
def LogRecord.line (record : LogRecord) : String :=
  record.level.name ++ " " ++ record.text

/-- What the log says of a refused span, if it says anything. -/
def Refusal.text? : Refusal → Option String
  | .full => some "dropped, record table full"
  | .outside captureLength => some ("exceeds the capture of " ++ toString captureLength ++ " octets")
  | .unencodable => some ("rejected: " ++ Error.overflow.message)
  | .vacant => none

/-- What the log says of a header that was left alone. -/
def Remark.log : Remark → LogRecord
  | .noIpVersion first offset =>
    ⟨.debug, "no IP version in octet " ++ Text.hexMarked 2 first.toNat ++ " at " ++ toString offset⟩
  | .ipv4HeaderLength length offset =>
    ⟨.debug, "IPv4 header length " ++ toString length ++ " at " ++ toString offset
      ++ " is malformed"⟩
  | .tcpHeaderLength length offset =>
    ⟨.debug, "TCP header length " ++ toString length ++ " at " ++ toString offset
      ++ " is malformed"⟩
  | .icmpv6Type type offset =>
    ⟨.trace, "ICMPv6 type " ++ type.describe ++ " at " ++ toString offset ++ " not dissected"⟩

/-- What the log calls a branch. -/
def Branch.describe : Branch → String
  | .capture length => "dissection of " ++ toString length ++ " octet capture"
  | .encapsulated .frame offset => "encapsulated frame at " ++ toString offset
  | .encapsulated (.payload type) offset =>
    "encapsulated " ++ type.describe ++ " payload at " ++ toString offset

/-- The log line of an event, if it has one. -/
def Event.log? : Event → Option LogRecord
  | .refused span reason =>
    reason.text?.map fun text => ⟨.debug, "span " ++ span.describe ++ " " ++ text⟩
  | .remark about => some about.log
  | .depthReached depth => some ⟨.debug, "encapsulation depth " ++ toString depth ++ " reached"⟩
  | .unhandled id value =>
    some ⟨.trace, "no handler for type " ++ Text.hexMarked 1 value.toNat ++ " below " ++ id.name⟩
  | .stopped branch stop => some ⟨.trace, branch.describe ++ " stopped: " ++ stop.message⟩
  | _ => none

/-- The log lines of a trace. -/
def logLines (events : List Event) : List String :=
  (events.filterMap Event.log?).map LogRecord.line

end FrameSpans
