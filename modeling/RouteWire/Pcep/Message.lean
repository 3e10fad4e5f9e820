import RouteWire.Pcep.Object.Decode
import RouteWire.Pcep.Object.Encode
/-!
Messages: a type and objects. A message has a header of four octets: the version of the protocol in
the upper three bits of an octet, its type, and its whole length. The objects fill the rest.
-/
namespace RouteWire.Pcep

structure Message where
  type : MessageType
  objects : List Object
  deriving DecidableEq, Repr

inductive MessageReadError where
  | endOfInput
  | unsupportedVersion (version : UInt8)
  | undefinedType (code : UInt8)
  /-- The length covers not even the header, or says more than is left. -/
  | invalidLength (mismatch : LengthMismatch)
  | object (error : ObjectReadError)
  deriving DecidableEq, Repr

instance : EndOfInput MessageReadError := ⟨.endOfInput⟩

def MessageReadError.message? : MessageReadError → Option String
  | invalidLength mismatch => some mismatch.message
  | object error => error.message?
  | endOfInput | unsupportedVersion _ | undefinedType _ => none

inductive MessageWriteError where
  | sinkFull
  | lengthOverflow (length : Nat)
  | object (error : ObjectWriteError)
  deriving DecidableEq, Repr

instance : SinkFull MessageWriteError := ⟨.sinkFull⟩

namespace Message

def checkVersion (octet : UInt8) : Except MessageReadError Unit :=
  if octet / 32 = protocolVersion then .ok () else .error (.unsupportedVersion (octet / 32))

def typeOfCode (code : UInt8) : Except MessageReadError MessageType :=
  CodePoint.ofCode .undefinedType code

def readHeader : Reader MessageReadError (MessageType × Nat) := do
  Reader.octet.convert checkVersion
  let type ← Reader.octet.convert typeOfCode
  let length ← Reader.number 2
  pure (type, length)

theorem length_of_readHeader {slice rest : Slice} {header : MessageType × Nat}
    (found : readHeader slice = .ok (header, rest)) :
    slice.octets.length = 4 + rest.octets.length := by
  obtain ⟨offset, octets⟩ := slice
  match octets with
  | [] => simp [readHeader, bind, Reader.convert, Reader.octet] at found
  | first :: behind =>
    simp only [readHeader, bind, Reader.convert, Reader.octet] at found
    cases version : checkVersion first with
    | error error => simp [version] at found
    | ok _ =>
      match behind with
      | [] => simp [version] at found
      | second :: behind =>
        simp only [version] at found
        cases kind : typeOfCode second with
        | error error => simp [kind] at found
        | ok type =>
          simp only [kind, Reader.number, Reader.take, bind] at found
          cases cut : Slice.split? ⟨offset + 1 + 1, behind⟩ 2 with
          | none => simp [cut] at found
          | some parts =>
            simp only [cut, pure] at found
            obtain ⟨whole, length, -, -⟩ := Slice.octets_of_split? cut
            cases found
            have size := congrArg List.length whole
            rw [List.length_append, length] at size
            simp only [List.length_cons]
            dsimp only at size
            omega

def framing : Framing MessageType MessageReadError where
  cut := fun slice =>
    match readHeader slice with
    | .error failure => .error failure
    | .ok ((type, length), behind) =>
      let invalid := slice.failure (.invalidLength ⟨length, slice.octets.length⟩)
      if length < 4 then
        .error invalid
      else
        match behind.split? (length - 4) with
        | none => .error invalid
        | some (body, rest) => .ok (⟨slice, type, body⟩, rest)
  shrinks := by
    intro slice rest frame found
    split at found
    · cases found
    · next type length behind header =>
      dsimp only at found
      split at found
      · cases found
      · split at found
        · cases found
        · next body after cut =>
          cases found
          obtain ⟨whole, -, -, -⟩ := Slice.octets_of_split? cut
          have size := congrArg List.length whole
          rw [List.length_append] at size
          rw [length_of_readHeader header]
          omega

def ofFrame : FrameReader MessageType MessageReadError Message := ⟨fun frame session =>
  match (Object.scanAll.mapError MessageReadError.object).run frame.value session with
  | (.error failure, session) => (.error failure, session)
  | (.ok (objects, _), session) => (.ok ⟨frame.header, objects⟩, session)⟩

def scan : Scan MessageReadError Message := .element framing ofFrame

def length (registry : Registry) (message : Message) : Nat :=
  4 + Object.totalLength registry message.objects

def header (message : Message) (length : Nat) : List UInt8 :=
  [UInt8.ofNat (protocolVersion.toNat * 32), CodePoint.code message.type] ++ beOctets 2 length

def script (registry : Registry) (message : Message) : Script MessageWriteError :=
  let length := message.length registry
  if 65535 < length then
    .fail (.lengthOverflow length)
  else
    .emit (message.header length) ++
      .concat (message.objects.map fun object => (object.script registry).mapError .object)

end Message
end RouteWire.Pcep
