import RouteWire.Pcep.Registry
import RouteWire.Pcep.Subobject.Basic
import RouteWire.Script
/-!
Writing subobjects: an octet with the flag and the code, an octet with the whole length, and the
contents. A subobject of an unregistered code is an error in an explicit route and in a route to
exclude, and is left out of a reported route.
-/
namespace RouteWire.Pcep

inductive SubobjectWriteError where
  | sinkFull
  | unregistered (code : UInt8)
  | emptyRoute
  | sidAndNaiAbsent
  | lengthOverflow (length : Nat)
  | invalidGeneralizedLabelLength (length : Nat)
  deriving DecidableEq, Repr

instance : SinkFull SubobjectWriteError := ⟨.sinkFull⟩

namespace Label

def length : Label → Nat
  | type1 _ => 2 + 4
  | generalized octets => 2 + octets.length
  | wavebandSwitching .. => 2 + 12

def check : Label → Option SubobjectWriteError
  | generalized octets =>
    if octets.length = 0 ∨ octets.length % 4 ≠ 0 then
      some (.invalidGeneralizedLabelLength octets.length)
    else
      none
  | type1 _ | wavebandSwitching .. => none

def octets (label : Label) : List UInt8 :=
  CodePoint.code label.type ::
    match label with
    | type1 label => word32 label
    | generalized octets => octets
    | wavebandSwitching wavebandId startLabel endLabel =>
      word32 wavebandId ++ word32 startLabel ++ word32 endLabel

end Label

def UnnumberedInterface.octets (hop : UnnumberedInterface) : List UInt8 :=
  hop.routerId.octets ++ word32 hop.interfaceId

def PathKey.octets {α : Type} (address : α → List UInt8) (key : PathKey α) : List UInt8 :=
  word16 key.key ++ address key.pceId

namespace Nai

def length : Nai → Nat
  | ipv4NodeId _ => 4
  | ipv6NodeId _ => 16
  | ipv4Adjacency .. => 2 * 4
  | ipv6GlobalAdjacency .. => 2 * 16
  | unnumberedAdjacency .. => 16
  | ipv6LinkLocalAdjacency .. => 2 * 16 + 8

def octets : Nai → List UInt8
  | ipv4NodeId node => node.octets
  | ipv6NodeId node => node.octets
  | ipv4Adjacency localAddress remoteAddress => localAddress.octets ++ remoteAddress.octets
  | ipv6GlobalAdjacency localAddress remoteAddress => localAddress.octets ++ remoteAddress.octets
  | unnumberedAdjacency localNode localInterface remoteNode remoteInterface =>
    word32 localNode ++ word32 localInterface ++ word32 remoteNode ++ word32 remoteInterface
  | ipv6LinkLocalAdjacency localAddress localInterface remoteAddress remoteInterface =>
    localAddress.octets ++ word32 localInterface ++ remoteAddress.octets ++ word32 remoteInterface

end Nai

def optionalOctets {α : Type} (octets : α → List UInt8) : Option α → List UInt8
  | none => []
  | some value => octets value

def optionalLength {α : Type} (length : α → Nat) : Option α → Nat
  | none => 0
  | some value => length value

def NaiType.upperHalf (type : NaiType) : UInt8 := UInt8.ofNat ((CodePoint.code type).toNat * 16)

namespace Segment

def length (segment : Segment) : Nat :=
  2 + optionalLength (fun _ => 4) segment.sid + optionalLength Nai.length segment.nai

def octets (segment : Segment) : List UInt8 :=
  [segment.naiType.upperHalf, UInt8.ofNat (bitsValue
    [segment.mplsLabel, segment.controlWord, segment.sid.isNone, segment.nai.isNone])] ++
    optionalOctets word32 segment.sid ++ optionalOctets Nai.octets segment.nai

def script (segment : Segment) : Script SubobjectWriteError :=
  if segment.sid.isNone ∧ segment.nai.isNone then .fail .sidAndNaiAbsent else .emit segment.octets

end Segment

namespace Srv6Segment

def length (segment : Srv6Segment) : Nat :=
  6 + optionalLength (fun _ => 16) segment.sid + optionalLength (fun _ => 8) segment.parts +
    optionalLength Nai.length segment.nai

def octets (segment : Srv6Segment) : List UInt8 :=
  [segment.naiType.upperHalf, UInt8.ofNat (bitsValue
    [segment.sid.isNone, segment.nai.isNone, segment.parts.isSome, segment.verification])] ++
    [0, 0] ++ word16 segment.behavior ++ optionalOctets Ipv6.octets segment.sid ++
    optionalOctets (fun parts => parts.octets ++ zeros 4) segment.parts ++
    optionalOctets Nai.octets segment.nai

def script (segment : Srv6Segment) : Script SubobjectWriteError :=
  if segment.sid.isNone ∧ segment.nai.isNone then .fail .sidAndNaiAbsent else .emit segment.octets

end Srv6Segment

namespace EroValue

def length : EroValue → Nat
  | ipv4Prefix _ => 6
  | ipv6Prefix _ => 18
  | label _ value => value.length
  | unnumberedInterface _ => 10
  | asNumber _ => 2
  | segmentRouting segment => segment.length
  | srv6 segment => segment.length
  | pathKeyIpv4 _ => 6
  | pathKeyIpv6 _ => 18

def check : EroValue → Option SubobjectWriteError
  | label _ value => value.check
  | _ => none

def script : EroValue → Script SubobjectWriteError
  | ipv4Prefix network => .emit (network.octets ++ [0])
  | ipv6Prefix network => .emit (network.octets ++ [0])
  | label backward value => .emit ((if backward then 128 else 0) :: value.octets)
  | unnumberedInterface hop => .emit ([0, 0] ++ hop.octets)
  | asNumber number => .emit (word16 number)
  | segmentRouting segment => segment.script
  | srv6 segment => segment.script
  | pathKeyIpv4 key => .emit (key.octets Ipv4.octets)
  | pathKeyIpv6 key => .emit (key.octets Ipv6.octets)

end EroValue

namespace XroValue

def length : XroValue → Nat
  | ipv4Prefix .. => 6
  | ipv6Prefix .. => 18
  | unnumberedInterface .. => 10
  | asNumber _ => 2
  | srlg .. => 6
  | pathKeyIpv4 _ => 6
  | pathKeyIpv6 _ => 18

def octets : XroValue → List UInt8
  | ipv4Prefix network aspect => network.octets ++ [CodePoint.code aspect]
  | ipv6Prefix network aspect => network.octets ++ [CodePoint.code aspect]
  | unnumberedInterface aspect hop => [0, CodePoint.code aspect] ++ hop.octets
  | asNumber number => word16 number
  | srlg id aspect => word32 id ++ [0, CodePoint.code aspect]
  | pathKeyIpv4 key => key.octets Ipv4.octets
  | pathKeyIpv6 key => key.octets Ipv6.octets

end XroValue

namespace Subobject

def header (flag : Bool) (code : UInt8) (length : Nat) : List UInt8 :=
  [if flag then 128 + code else code, UInt8.ofNat length]

def lengthCheck (length : Nat) : Option SubobjectWriteError :=
  if 255 < length then some (.lengthOverflow length) else none

end Subobject

namespace EroSubobject

def length (subobject : EroSubobject) : Nat := 2 + subobject.value.length

def script (registry : Registry) (subobject : EroSubobject) : Script SubobjectWriteError :=
  if (registry.ero? subobject.code).isSome then
    .check subobject.value.check ++ (.check (Subobject.lengthCheck subobject.length) ++
      (.emit (Subobject.header subobject.loose subobject.code subobject.length) ++
        subobject.value.script))
  else
    .fail (.unregistered subobject.code)

end EroSubobject

namespace XroSubobject

def length (subobject : XroSubobject) : Nat := 2 + subobject.value.length

def script (registry : Registry) (subobject : XroSubobject) : Script SubobjectWriteError :=
  if (registry.xro? subobject.code).isSome then
    .check (Subobject.lengthCheck subobject.length) ++
      (.emit (Subobject.header subobject.mandatory subobject.code subobject.length) ++
        .emit subobject.value.octets)
  else
    .fail (.unregistered subobject.code)

end XroSubobject

namespace RroSubobject

def valueLength : RroSubobject → Nat
  | ipv4Prefix .. => 6
  | ipv6Prefix .. => 18
  | label _ _ value => value.length
  | unnumberedInterface .. => 10
  | segmentRouting segment => segment.length
  | pathKeyIpv4 _ => 6
  | pathKeyIpv6 _ => 18

def check : RroSubobject → Option SubobjectWriteError
  | label _ _ value => value.check
  | _ => none

def valueScript : RroSubobject → Script SubobjectWriteError
  | ipv4Prefix network protection => .emit (network.octets ++ [protection.flags])
  | ipv6Prefix network protection => .emit (network.octets ++ [protection.flags])
  | label backward wide value =>
    .emit (UInt8.ofNat (backward.toNat * 128 + wide.toNat) :: value.octets)
  | unnumberedInterface protection hop => .emit ([protection.flags, 0] ++ hop.octets)
  | segmentRouting segment => segment.script
  | pathKeyIpv4 key => .emit (key.octets Ipv4.octets)
  | pathKeyIpv6 key => .emit (key.octets Ipv6.octets)

def isRegistered (registry : Registry) (subobject : RroSubobject) : Bool :=
  (registry.rro? subobject.code).isSome

/-- The length of a subobject on the wire; nothing for one that is left out. -/
def length (registry : Registry) (subobject : RroSubobject) : Nat :=
  if subobject.isRegistered registry then 2 + subobject.valueLength else 0

def script (registry : Registry) (subobject : RroSubobject) : Script SubobjectWriteError :=
  if subobject.isRegistered registry then
    .check subobject.check ++ (.check (Subobject.lengthCheck (2 + subobject.valueLength)) ++
      (.emit (Subobject.header false subobject.code (2 + subobject.valueLength)) ++
        subobject.valueScript))
  else
    .done

end RroSubobject

namespace Subobject

def eroLength (route : List EroSubobject) : Nat := (route.map EroSubobject.length).foldr (· + ·) 0

def xroLength (route : List XroSubobject) : Nat := (route.map XroSubobject.length).foldr (· + ·) 0

def rroLength (registry : Registry) (route : List RroSubobject) : Nat :=
  (route.map (RroSubobject.length registry)).foldr (· + ·) 0

def routeScript {α : Type} (script : α → Script SubobjectWriteError) (route : List α) :
    Script SubobjectWriteError :=
  if route.isEmpty then .fail .emptyRoute else .concat (route.map script)

def eroScript (registry : Registry) (route : List EroSubobject) : Script SubobjectWriteError :=
  routeScript (EroSubobject.script registry) route

def xroScript (registry : Registry) (route : List XroSubobject) : Script SubobjectWriteError :=
  routeScript (XroSubobject.script registry) route

def rroScript (registry : Registry) (route : List RroSubobject) : Script SubobjectWriteError :=
  .concat (route.map (RroSubobject.script registry))

end Subobject
end RouteWire.Pcep
