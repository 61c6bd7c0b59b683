import FrameSpans.Reading.Basic

/-!
# Handlers

Protocols outside the built-in ones are the business of handlers. A handler is asked about the octets
behind a header, a `Consultation`, and answers with a `Program`: the finite run of its requests to
whoever records the packet. The only things it learns on the way are the length of the capture and
whether a span it offered was accepted.

The same program can be run by a dissector, where its requests record spans and dissect encapsulated
packets, or rehearsed with `Program.requests`, which lists what it asks for.
-/

namespace FrameSpans

/-- What a handler is asked. -/
structure Consultation where
  /-- The capture. -/
  data : Octets
  /-- The first octet behind the header that led to the handler. -/
  offset : Nat
  /-- The id of that header, under which the handler is registered. -/
  id : ProtocolId
  /-- What is known about the octets. -/
  inquiry : Inquiry
  deriving DecidableEq, Repr

/-- An encapsulated packet that a handler asks to dissect. -/
inductive Encapsulation
  /-- An Ethernet frame. -/
  | frame
  /-- The payload of a header that names the given type. -/
  | payload (type : EtherType)
  deriving DecidableEq, Repr

/-- How the reading of an encapsulated packet starts. -/
def Encapsulation.entry : Encapsulation → Entry
  | .frame => .ethernet
  | .payload type => .etherType type

/-- The requests that a handler makes, one after the other. -/
inductive Program
  /-- Nothing more is requested. -/
  | done
  /-- The handler failed: it accessed an octet or a position that does not exist. -/
  | fault
  /-- Leaves a note in the trace. -/
  | note (text : String) (next : Program)
  /-- Asks for the number of captured octets. -/
  | captureLength (next : Nat → Program)
  /-- Offers a span and learns whether it was accepted. -/
  | addSpan (span : Span) (next : Bool → Program)
  /-- Asks to dissect the encapsulated packet at `offset` of `data`. -/
  | dissect (inner : Encapsulation) (data : Octets) (offset : Nat) (next : Program)

/-- A protocol module: its answer to every consultation. It keeps nothing in mind from one
consultation to the next, so equal ones are answered alike. -/
abbrev Handler := Consultation → Program

/-- One request of a program. -/
inductive Request
  /-- A note was left. -/
  | note (text : String)
  /-- A span was offered. -/
  | addSpan (span : Span)
  /-- An encapsulated packet was to be dissected, at `offset` of `length` octets. -/
  | dissect (inner : Encapsulation) (length offset : Nat)
  deriving DecidableEq, Repr

/-- The requests of a program to a recorder that holds `captureLength` octets and answers every
offered span with `accepts`. -/
def Program.requests (captureLength : Nat) (accepts : Bool) : Program → List Request
  | .done => []
  | .fault => []
  | .note text next => .note text :: next.requests captureLength accepts
  | .captureLength next => (next captureLength).requests captureLength accepts
  | .addSpan span next => .addSpan span :: (next accepts).requests captureLength accepts
  | .dissect inner data offset next =>
    .dissect inner data.size offset :: next.requests captureLength accepts

/-- Goes on with what was read of a header. A header that was not captured ends the program. -/
def Program.ofRead {α : Type} (result : Except Stop α) (next : α → Program) : Program :=
  match result with
  | .ok value => next value
  | .error .truncated => .done
  | .error .fault => .fault

end FrameSpans
