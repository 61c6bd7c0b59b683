import FrameSpans.Header.Overlay
import FrameSpans.Registry

/-!
# Tunnels

Handlers for three encapsulations: VXLAN and Geneve inside UDP, which go on with the encapsulated
packet, and ESP as an IP protocol or inside UDP, whose payload is encrypted. Their ids are the first
ones left to handlers.
-/

namespace FrameSpans.Tunnel

/-- The id of a VXLAN header. -/
def vxlanId : ProtocolId := .extension 0

/-- The id of a Geneve header, options included. -/
def geneveId : ProtocolId := .extension 1

/-- The id of an ESP header. -/
def espId : ProtocolId := .extension 2

/-- The assigned port of VXLAN. -/
def vxlanPort : UInt16 := 4789

/-- The assigned port of Geneve. -/
def genevePort : UInt16 := 6081

/-- The port of ESP inside UDP. -/
def natTraversalPort : UInt16 := 4500

/-- The IP protocol number of ESP. -/
def espProtocol : UInt16 := 50

/-- Recognizes VXLAN by the destination port and goes on with the frame behind its header. -/
def vxlan (port : UInt16) : Handler := fun call =>
  match call.inquiry with
  | .nextHeader _ => .done
  | .ports _ destination =>
    if destination ≠ port then .done
    else
      .ofRead (VxlanHeader.read call.data call.offset) fun header =>
      if !header.hasNetworkId then .done
      else
        .addSpan ⟨vxlanId, call.offset, VxlanHeader.size⟩ fun accepted =>
        if accepted then
          .ofRead (advance call.offset VxlanHeader.size) fun inner =>
          .dissect .frame call.data inner .done
        else .done

/-- Recognizes Geneve by the destination port and goes on with the payload behind its header. The
span is refused when the options were not captured completely. -/
def geneve (port : UInt16) : Handler := fun call =>
  match call.inquiry with
  | .nextHeader _ => .done
  | .ports _ destination =>
    if destination ≠ port then .done
    else
      .ofRead (GeneveHeader.read call.data call.offset) fun header =>
      if header.version ≠ 0 then .done
      else
        .addSpan ⟨geneveId, call.offset, header.headerLength⟩ fun accepted =>
        if accepted then
          .ofRead (advance call.offset header.headerLength) fun inner =>
          .dissect (.payload (.ofValue header.protocolType)) call.data inner .done
        else .done

/-- Offers the readable part of an ESP packet. An index of zero marks key exchange traffic, which
shares the port. -/
def recordEsp (data : Octets) (offset : Nat) : Program :=
  .ofRead (EspHeader.read data offset) fun header =>
  if header.index = 0 then .done
  else .addSpan ⟨espId, offset, EspHeader.size⟩ fun _ => .done

/-- Recognizes ESP by its protocol number, and behind UDP by the port on either side. -/
def esp : Handler := fun call =>
  match call.inquiry with
  | .nextHeader value => if value = espProtocol then recordEsp call.data call.offset else .done
  | .ports source destination =>
    if call.id = .udp ∧ (source = natTraversalPort ∨ destination = natTraversalPort) then
      recordEsp call.data call.offset
    else .done

/-- All tunnel handlers on their assigned ports, with the ids they are attached to. -/
def handlers : List (ProtocolId × Handler) :=
  [(.udp, vxlan vxlanPort), (.udp, geneve genevePort), (.ipv4, esp), (.ipv6, esp), (.udp, esp)]

end FrameSpans.Tunnel
