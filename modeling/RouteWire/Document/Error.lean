import RouteWire.Document.Capability
import RouteWire.Document.Object
/-!
Reports of errors: the document of an error, in which every layer is a form around the layer below,
and its text if it has one.
-/
namespace RouteWire

class Reported (ε : Type) where
  detail : ε → Document
  message? : ε → Option String

def endOfInputDetail : Document := .form "NomError" (.text "Eof")

def sinkFullDetail : Document := .form "StdIOError" (.text sinkFullMessage)

namespace Pcep

instance : Documented LengthMismatch where
  toDocument mismatch := .record
    [field "declared" mismatch.declared, field "available" mismatch.available]
  ofDocument? d := do return ⟨← d.get "declared", ← d.get "available"⟩

instance : Documented ValueLengthMismatch where
  toDocument mismatch := .record
    [field "code" mismatch.code, field "expected" mismatch.expected,
      field "actual" mismatch.actual]
  ofDocument? d := do return ⟨← d.get "code", ← d.get "expected", ← d.get "actual"⟩

instance : Reported TlvReadError where
  message? := TlvReadError.message?
  detail
    | .endOfInput => endOfInputDetail
    | .truncatedHeader mismatch => .form "TruncatedTlvHeader" (toDocument mismatch)
    | .invalidLength mismatch => .form "InvalidTlvLength" (toDocument mismatch)
    | .invalidValueLength mismatch => .form "InvalidValueLength" (toDocument mismatch)
    | .unalignedValueLength mismatch => .form "UnalignedValueLength" (toDocument mismatch)
    | .undefinedBindingType code => .form "UndefinedBindingType" (toDocument code)
    | .unknownRsvpErrorSpec specClass specType => .form "UnknownRsvpErrorSpec" (.record
        [field "class" specClass, field "c_type" specType])

instance : Reported SubobjectReadError where
  message? := SubobjectReadError.message?
  detail
    | .endOfInput => endOfInputDetail
    | .invalidLength mismatch => .form "InvalidSubobjectLength" (toDocument mismatch)
    | .unrecognized code => .form "UnrecognizedSubobject" (toDocument code)
    | .emptyRoute => .text "EmptyRoute"
    | .invalidValueLength mismatch => .form "InvalidValueLength" (toDocument mismatch)
    | .undefinedLabelType code => .form "UndefinedLabelCType" (toDocument code)
    | .invalidIpv4PrefixLength length => .form "InvalidIpv4PrefixLength" (toDocument length)
    | .invalidIpv6PrefixLength length => .form "InvalidIpv6PrefixLength" (toDocument length)
    | .invalidGeneralizedLabelLength length =>
      .form "InvalidGeneralizedLabelLength" (toDocument length)
    | .undefinedXroAttribute code => .form "UndefinedXroAttribute" (toDocument code)
    | .undefinedNaiType code => .form "UndefinedSrNaiType" (toDocument code)
    | .sidAndNaiAbsent => .text "SidAndNaiAbsent"

instance : Reported ObjectReadError where
  message? := ObjectReadError.message?
  detail
    | .endOfInput => endOfInputDetail
    | .truncatedHeader mismatch => .form "TruncatedObjectHeader" (toDocument mismatch)
    | .invalidLength length => .form "InvalidObjectLength" (toDocument length)
    | .lengthMismatch mismatch => .form "ObjectLengthMismatch" (toDocument mismatch)
    | .bodyTooShort objectClass expected available => .form "BodyTooShort" (.record
        [field "class" objectClass, field "expected" expected, field "available" available])
    | .unalignedBody objectClass elementLength available => .form "UnalignedBody" (.record
        [field "class" objectClass, field "element_len" elementLength,
          field "available" available])
    | .tlv error => .form "TlvError" (Reported.detail error)
    | .subobject error => .form "SubobjectError" (Reported.detail error)
    | .undefinedOperationalStatus code => .form "UndefinedLspOperationalStatus" (toDocument code)

instance : Reported MessageReadError where
  message? := MessageReadError.message?
  detail
    | .endOfInput => endOfInputDetail
    | .unsupportedVersion version => .form "UnsupportedVersion" (toDocument version)
    | .undefinedType code => .form "UndefinedMessageType" (toDocument code)
    | .invalidLength mismatch => .form "InvalidMessageLength" (toDocument mismatch)
    | .object error => .form "ObjectError" (Reported.detail error)

instance : Reported TlvWriteError where
  message? _ := none
  detail
    | .sinkFull => sinkFullDetail
    | .valueLengthOverflow length => .form "ValueLengthOverflow" (toDocument length)
    | .invalidMplsLabel label => .form "InvalidMplsLabel" (toDocument label)
    | .invalidTrafficClass trafficClass => .form "InvalidTrafficClass" (toDocument trafficClass)
    | .pathSetupTypesOverflow count => .form "PathSetupTypesOverflow" (toDocument count)
    | .errorDescriptionOverflow length => .form "ErrorDescriptionOverflow" (toDocument length)

instance : Reported SubobjectWriteError where
  message? _ := none
  detail
    | .sinkFull => sinkFullDetail
    | .unregistered code => .form "UnregisteredSubobject" (toDocument code)
    | .emptyRoute => .text "EmptyRoute"
    | .sidAndNaiAbsent => .text "SidAndNaiAbsent"
    | .lengthOverflow length => .form "SubobjectLengthOverflow" (toDocument length)
    | .invalidGeneralizedLabelLength length =>
      .form "InvalidGeneralizedLabelLength" (toDocument length)

instance : Reported ObjectWriteError where
  message? _ := none
  detail
    | .sinkFull => sinkFullDetail
    | .tlv error => .form "TlvError" (Reported.detail error)
    | .subobject error => .form "SubobjectError" (Reported.detail error)
    | .unregistered codes => .form "UnregisteredObject" (.record
        [field "class" codes.objectClass, field "object_type" codes.objectType])
    | .lengthOverflow length => .form "ObjectLengthOverflow" (toDocument length)
    | .invalidPlspId plspId => .form "InvalidPlspId" (toDocument plspId)
    | .invalidOpeningFlags flags => .form "InvalidOpenFlags" (toDocument flags)
    | .invalidObjectType objectType => .form "InvalidObjectType" (toDocument objectType)

instance : Reported MessageWriteError where
  message? _ := none
  detail
    | .sinkFull => sinkFullDetail
    | .lengthOverflow length => .form "MessageLengthOverflow" (toDocument length)
    | .object error => .form "ObjectError" (Reported.detail error)

end Pcep

namespace Bgp

instance : Reported CapabilityReadError where
  message? := CapabilityReadError.message?
  detail
    | .endOfInput => endOfInputDetail
    | .wrongLength code actual =>
      .form ("Invalid" ++ CodePoint.name code ++ "Length") (toDocument actual)
    | .unregisteredFamily codes =>
      .form (CodePoint.name CapabilityCode.multiProtocolExtensions ++ "CapabilityError")
        (.form "UnregisteredAddressFamily" (toDocument codes))
    | .truncatedFamilies code => .form (CodePoint.name code ++ "CapabilityError") endOfInputDetail
    | .invalidSendReceive octet =>
      .form (CodePoint.name CapabilityCode.addPath ++ "CapabilityError")
        (.form "InvalidAddPathSendReceiveValue" (toDocument octet))

instance : Reported CapabilityWriteError where
  message? := CapabilityWriteError.message?
  detail
    | .sinkFull => sinkFullDetail
    | .unregisteredType type => .form "UnregisteredAddressType" (toDocument type)
    | .invalidRestartTime time => .form "InvalidRestartTime" (toDocument time)
    | .lengthOverflow length => .form "CapabilityLengthOverflow" (toDocument length)

end Bgp
end RouteWire
