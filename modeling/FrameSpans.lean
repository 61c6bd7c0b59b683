import FrameSpans.Bitmask
import FrameSpans.Span
import FrameSpans.Tag.EtherType
import FrameSpans.Tag.Icmpv6
import FrameSpans.Tag.L2Type
import FrameSpans.Text.Blank
import FrameSpans.Header.Ethernet
import FrameSpans.Header.Ip
import FrameSpans.Header.Transport
import FrameSpans.Header.Overlay
import FrameSpans.Reading.Level
import FrameSpans.Config
import FrameSpans.Tunnel
import FrameSpans.Descriptor.Writer
import FrameSpans.Descriptor.View
import FrameSpans.Dissector.Descent
import FrameSpans.Dissector.Output
import FrameSpans.Session
import FrameSpans.Main
import FrameSpans.Proofs.Session.Table
import FrameSpans.Proofs.Session.Descriptor
import FrameSpans.Proofs.Session.Safety
import FrameSpans.Proofs.Dissector.Coverage
import FrameSpans.Proofs.Dissector.Fragments
import FrameSpans.Proofs.Dissector.Consultation
import FrameSpans.Proofs.Dissector.VlanTags
import FrameSpans.Proofs.Dissector.Excerpt
import FrameSpans.Proofs.Dissector.Flags
import FrameSpans.Proofs.Dissector.ShorterCapture
import FrameSpans.Proofs.Dissector.LongerCapture
import FrameSpans.Proofs.Dissector.Handlers
import FrameSpans.Proofs.Dissector.Translation
import FrameSpans.Proofs.Reading.Succession
import FrameSpans.Proofs.Dissector.Succession
import FrameSpans.Proofs.Session.Reporting
import FrameSpans.Proofs.Dissector.Bridging
import FrameSpans.Proofs.Session.Depth
import FrameSpans.Proofs.Dissector.Framing
import FrameSpans.Proofs.Dissector.InnerFragments
import FrameSpans.Proofs.Dissector.Overlap
import FrameSpans.Proofs.Dissector.Encapsulation
import FrameSpans.Proofs.Dissector.Options
import FrameSpans.Proofs.Reading.Sizes
import FrameSpans.Proofs.Descriptor.Canonical
import FrameSpans.Proofs.CommandLine.Report
import FrameSpans.Proofs.Dissector.Offers
import FrameSpans.Proofs.Dissector.Encodable
import FrameSpans.Proofs.Dissector.ExtensionHeaders
import FrameSpans.Proofs.Descriptor.Fields
import FrameSpans.Proofs.Descriptor.Cursor
import FrameSpans.Proofs.Descriptor.ByteOrder
import FrameSpans.Proofs.Text.Frame
import FrameSpans.Proofs.Dissector.Log
import FrameSpans.Proofs.Registry
import FrameSpans.Proofs.Dissector.Hearing
import FrameSpans.Proofs.Reading.Extent
