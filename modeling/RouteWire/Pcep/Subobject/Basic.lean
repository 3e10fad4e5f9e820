import RouteWire.Address.Network
import RouteWire.Pcep.CodePoints
import RouteWire.Pcep.SidStructure
/-!
Subobjects: the hops of an explicit route, of a route to exclude, and of a reported route.
-/
namespace RouteWire.Pcep

inductive Label where
  | type1 (label : UInt32)
  | generalized (octets : List UInt8)
  | wavebandSwitching (wavebandId startLabel endLabel : UInt32)
  deriving DecidableEq, Repr

def Label.type : Label → LabelType
  | type1 _ => .type1
  | generalized _ => .generalized
  | wavebandSwitching .. => .wavebandSwitching

structure UnnumberedInterface where
  routerId : Ipv4
  interfaceId : UInt32
  deriving DecidableEq, Repr

structure PathKey (α : Type) where
  key : UInt16
  pceId : α
  deriving DecidableEq, Repr

inductive Nai where
  | ipv4NodeId (node : Ipv4)
  | ipv6NodeId (node : Ipv6)
  | ipv4Adjacency (localAddress remoteAddress : Ipv4)
  | ipv6GlobalAdjacency (localAddress remoteAddress : Ipv6)
  | unnumberedAdjacency (localNode localInterface remoteNode remoteInterface : UInt32)
  | ipv6LinkLocalAdjacency (localAddress : Ipv6) (localInterface : UInt32)
      (remoteAddress : Ipv6) (remoteInterface : UInt32)
  deriving DecidableEq, Repr

def Nai.type : Nai → NaiType
  | ipv4NodeId _ => .ipv4NodeId
  | ipv6NodeId _ => .ipv6NodeId
  | ipv4Adjacency .. => .ipv4Adjacency
  | ipv6GlobalAdjacency .. => .ipv6GlobalAdjacency
  | unnumberedAdjacency .. => .unnumberedAdjacency
  | ipv6LinkLocalAdjacency .. => .ipv6LinkLocalAdjacency

/-- A segment with a label or an index. The type of its identifier is kept also where the identifier
itself is absent. -/
structure Segment where
  naiType : NaiType
  controlWord : Bool
  mplsLabel : Bool
  sid : Option UInt32
  nai : Option Nai
  deriving DecidableEq, Repr

structure Srv6Segment where
  naiType : NaiType
  verification : Bool
  behavior : UInt16
  sid : Option Ipv6
  parts : Option SidStructure
  nai : Option Nai
  deriving DecidableEq, Repr

/-- What a hop of an explicit route is. A label is for one direction of a path, and `backward` says that
it is the one from the end to the start. -/
inductive EroValue where
  | ipv4Prefix (network : Ipv4Network)
  | ipv6Prefix (network : Ipv6Network)
  | label (backward : Bool) (label : Label)
  | unnumberedInterface (hop : UnnumberedInterface)
  | asNumber (number : UInt16)
  | segmentRouting (segment : Segment)
  | srv6 (segment : Srv6Segment)
  | pathKeyIpv4 (key : PathKey Ipv4)
  | pathKeyIpv6 (key : PathKey Ipv6)
  deriving DecidableEq, Repr

def EroValue.kind : EroValue → EroKind
  | ipv4Prefix _ => .ipv4Prefix
  | ipv6Prefix _ => .ipv6Prefix
  | label .. => .label
  | unnumberedInterface _ => .unnumberedInterface
  | asNumber _ => .asNumber
  | segmentRouting _ => .segmentRouting
  | srv6 _ => .srv6
  | pathKeyIpv4 _ => .pathKeyIpv4
  | pathKeyIpv6 _ => .pathKeyIpv6

structure EroSubobject where
  loose : Bool
  value : EroValue
  deriving DecidableEq, Repr

inductive XroValue where
  | ipv4Prefix (network : Ipv4Network) (aspect : XroAttribute)
  | ipv6Prefix (network : Ipv6Network) (aspect : XroAttribute)
  | unnumberedInterface (aspect : XroAttribute) (hop : UnnumberedInterface)
  | asNumber (number : UInt16)
  | srlg (id : UInt32) (aspect : XroAttribute)
  | pathKeyIpv4 (key : PathKey Ipv4)
  | pathKeyIpv6 (key : PathKey Ipv6)
  deriving DecidableEq, Repr

def XroValue.kind : XroValue → XroKind
  | ipv4Prefix .. => .ipv4Prefix
  | ipv6Prefix .. => .ipv6Prefix
  | unnumberedInterface .. => .unnumberedInterface
  | asNumber _ => .asNumber
  | srlg .. => .srlg
  | pathKeyIpv4 _ => .pathKeyIpv4
  | pathKeyIpv6 _ => .pathKeyIpv6

structure XroSubobject where
  mandatory : Bool
  value : XroValue
  deriving DecidableEq, Repr

structure Protection where
  available : Bool
  inUse : Bool
  deriving DecidableEq, Repr

/-- A hop of a reported route. A label is for one direction of a path, and is understood on one
interface or, if it is `wide`, on all of a node. -/
inductive RroSubobject where
  | ipv4Prefix (network : Ipv4Network) (protection : Protection)
  | ipv6Prefix (network : Ipv6Network) (protection : Protection)
  | label (backward wide : Bool) (label : Label)
  | unnumberedInterface (protection : Protection) (hop : UnnumberedInterface)
  | segmentRouting (segment : Segment)
  | pathKeyIpv4 (key : PathKey Ipv4)
  | pathKeyIpv6 (key : PathKey Ipv6)
  deriving DecidableEq, Repr

def RroSubobject.kind : RroSubobject → RroKind
  | ipv4Prefix .. => .ipv4Prefix
  | ipv6Prefix .. => .ipv6Prefix
  | label .. => .label
  | unnumberedInterface .. => .unnumberedInterface
  | segmentRouting _ => .segmentRouting
  | pathKeyIpv4 _ => .pathKeyIpv4
  | pathKeyIpv6 _ => .pathKeyIpv6

def EroSubobject.code (subobject : EroSubobject) : UInt8 := CodePoint.code subobject.value.kind

def XroSubobject.code (subobject : XroSubobject) : UInt8 := CodePoint.code subobject.value.kind

def RroSubobject.code (subobject : RroSubobject) : UInt8 := CodePoint.code subobject.kind

namespace Protection

def ofFlags (flags : UInt8) : Protection := ⟨flags.toNat.testBit 0, flags.toNat.testBit 1⟩

def flags (protection : Protection) : UInt8 :=
  UInt8.ofNat (bitsValue [protection.available, protection.inUse])

@[simp] theorem ofFlags_flags (protection : Protection) : ofFlags protection.flags = protection := by
  obtain ⟨available, inUse⟩ := protection
  cases available <;> cases inUse <;> rfl

end Protection
end RouteWire.Pcep
