import RouteWire.Bgp.Capability
import RouteWire.Framing
/-!
Reading capabilities. Families that the registry does not know are left out of a list of families,
but are an error where a capability is about one family only.
-/
namespace RouteWire.Bgp

inductive CapabilityReadError where
  | endOfInput
  | wrongLength (code : CapabilityCode) (actual : UInt8)
  | unregisteredFamily (codes : FamilyCodes)
  /-- The value of a list of families ends within an entry, or within what precedes the entries. -/
  | truncatedFamilies (code : CapabilityCode)
  | invalidSendReceive (octet : UInt8)
  deriving DecidableEq, Repr

instance : EndOfInput CapabilityReadError := ⟨.endOfInput⟩

def CapabilityReadError.message? : CapabilityReadError → Option String
  | unregisteredFamily codes => some codes.unregisteredMessage
  | endOfInput | wrongLength .. | truncatedFamilies _ | invalidSendReceive _ => none

namespace Capability

def readCodes {ε : Type} [EndOfInput ε] : Reader ε FamilyCodes := do
  let afi ← Reader.word16
  let safi ← Reader.octet
  pure ⟨afi, safi⟩

def inFamilies (code : CapabilityCode) : CapabilityReadError → CapabilityReadError
  | .endOfInput => .truncatedFamilies code
  | error => error

def readMultiProtocol (registry : FamilyRegistry) : Reader CapabilityReadError Capability :=
  Reader.convert
    (do
      let afi ← Reader.word16
      let _reserved ← Reader.octet
      let safi ← Reader.octet
      pure (⟨afi, safi⟩ : FamilyCodes))
    fun codes =>
      match registry.typeOf? codes with
      | some type => .ok (.multiProtocolExtensions type)
      | none => .error (.unregisteredFamily codes)

def readRestartFamily (registry : FamilyRegistry) :
    Reader CapabilityReadError (Option RestartFamily) := do
  let codes ← readCodes
  let flags ← Reader.octet
  pure ((registry.typeOf? codes).map fun type => ⟨flags.toNat.testBit 7, type⟩)

def readPathFamily (registry : FamilyRegistry) :
    Reader CapabilityReadError (Option PathFamily) := do
  let codes ← readCodes
  let directions ← Reader.octet.convert fun octet =>
    if 3 < octet then .error (.invalidSendReceive octet) else .ok octet.toNat
  pure ((registry.typeOf? codes).map fun type => ⟨type, directions.testBit 1, directions.testBit 0⟩)

def readFamilies {α : Type} (entry : Reader CapabilityReadError (Option α)) :
    Reader CapabilityReadError (List α) := do
  let families ← (Framing.ofWidth 4 (by decide)).readAll fun frame => entry.inside frame.value
  pure (families.filterMap id)

def readGracefulRestart (registry : FamilyRegistry) : Reader CapabilityReadError Capability := do
  let header ← Reader.word16
  let families ← readFamilies (readRestartFamily registry)
  pure (.gracefulRestart
    { restart := header.toNat.testBit 15
      gracefulNotification := header.toNat.testBit 14
      time := UInt16.ofNat (header.toNat % 4096)
      families })

def readValue (registry : FamilyRegistry) : CapabilityCode → Reader CapabilityReadError Capability
  | .multiProtocolExtensions => readMultiProtocol registry
  | .routeRefresh => pure .routeRefresh
  | .enhancedRouteRefresh => pure .enhancedRouteRefresh
  | .extendedMessage => pure .extendedMessage
  | .fourOctetAs => do
    let number ← Reader.word32
    pure (.fourOctetAs number)
  | .gracefulRestart => (readGracefulRestart registry).mapError (inFamilies .gracefulRestart)
  | .addPath =>
    Reader.mapError (inFamilies .addPath) do
      let families ← readFamilies (readPathFamily registry)
      pure (.addPath families)

def fixedLength? : CapabilityCode → Option Nat
  | .multiProtocolExtensions | .fourOctetAs => some 4
  | .routeRefresh | .enhancedRouteRefresh | .extendedMessage => some 0
  | .gracefulRestart | .addPath => none

/-- Reads the length octet and the value behind it as a slice of its own. A value of the wrong length
fails at the length octet. -/
def readContents (code? : Option CapabilityCode) : Reader CapabilityReadError Slice := fun slice =>
  match Reader.octet slice with
  | .error failure => .error failure
  | .ok (length, behind) =>
    match behind.split? length.toNat with
    | none => .error (behind.failure .endOfInput)
    | some (value, rest) =>
      match code? with
      | none => .ok (value, rest)
      | some code =>
        match fixedLength? code with
        | none => .ok (value, rest)
        | some fixed =>
          if length.toNat = fixed then .ok (value, rest)
          else .error (slice.failure (.wrongLength code length))

def read (registry : FamilyRegistry) : Reader CapabilityReadError Capability := do
  let code ← Reader.octet
  let value ← readContents (CodePoint.ofCode? code)
  match CodePoint.ofCode? code with
  | none => pure (.unrecognized code value.octets)
  | some known => fun rest =>
    match (readValue registry known).inside value with
    | .error failure => .error failure
    | .ok capability => .ok (capability, rest)

theorem length_of_readContents {slice value rest : Slice} {code? : Option CapabilityCode}
    (found : readContents code? slice = .ok (value, rest)) :
    rest.octets.length ≤ slice.octets.length := by
  obtain ⟨offset, octets⟩ := slice
  match octets with
  | [] => simp [readContents, Reader.octet] at found
  | length :: behind =>
    simp only [readContents, Reader.octet] at found
    cases cut : Slice.split? ⟨offset + 1, behind⟩ length.toNat with
    | none => simp [cut] at found
    | some parts =>
      obtain ⟨whole, -, -, -⟩ := Slice.octets_of_split? cut
      have size := congrArg List.length whole
      rw [List.length_append] at size
      dsimp only at size
      have same : parts.2 = rest := by
        rw [cut] at found
        dsimp only at found
        split at found
        · cases found; rfl
        · split at found
          · cases found; rfl
          · split at found <;> cases found
            rfl
      rw [← same, List.length_cons]
      omega

theorem length_of_read {registry : FamilyRegistry} {slice rest : Slice} {capability : Capability}
    (found : read registry slice = .ok (capability, rest)) :
    rest.octets.length < slice.octets.length := by
  obtain ⟨offset, octets⟩ := slice
  match octets with
  | [] => simp [read, bind, Reader.octet] at found
  | code :: behind =>
    simp only [read, bind, Reader.octet] at found
    cases contents : readContents (CodePoint.ofCode? code) ⟨offset + 1, behind⟩ with
    | error failure => simp [contents] at found
    | ok parts =>
      have shorter := length_of_readContents contents
      have same : parts.2 = rest := by
        rw [contents] at found
        cases known : (CodePoint.ofCode? code : Option CapabilityCode) with
        | none =>
          simp only [known] at found
          cases found
          rfl
        | some kind =>
          simp only [known] at found
          split at found <;> cases found
          rfl
      rw [← same, List.length_cons]
      dsimp only at shorter
      omega

/-- Reads capabilities one after another, at least one, up to the end or to the first that fails.
Each is given with what is left behind it. -/
def readSeries (registry : FamilyRegistry) (slice : Slice) :
    List (Capability × Slice) × Option (Failure CapabilityReadError) :=
  match found : read registry slice with
  | .error failure => ([], some failure)
  | .ok (capability, rest) =>
    if rest.octets.isEmpty then
      ([(capability, rest)], none)
    else
      have := length_of_read found
      let (later, failure) := readSeries registry rest
      ((capability, rest) :: later, failure)
termination_by slice.octets.length

end Capability
end RouteWire.Bgp
