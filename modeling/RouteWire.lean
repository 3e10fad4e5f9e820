import RouteWire.Document.Error
import RouteWire.Proofs.Bgp.FamilyList
import RouteWire.Proofs.Bgp.Refusal
import RouteWire.Proofs.Located
import RouteWire.Proofs.Pcep.BitField
import RouteWire.Proofs.Pcep.Collecting
import RouteWire.Proofs.Pcep.Narrowing
import RouteWire.Proofs.Pcep.Object.Echo
import RouteWire.Proofs.Pcep.Object.Plain
import RouteWire.Proofs.Pcep.Object.Unpadded
import RouteWire.Proofs.Pcep.Recording
import RouteWire.Proofs.Pcep.Reread
import RouteWire.Proofs.Pcep.Rewriting
import RouteWire.Proofs.Pcep.Stream.Exchange
import RouteWire.Proofs.Pcep.Stream.Waiting
import RouteWire.Proofs.Pcep.Stream.Writing
import RouteWire.Proofs.Pcep.Truncation
import RouteWire.Proofs.Sink
