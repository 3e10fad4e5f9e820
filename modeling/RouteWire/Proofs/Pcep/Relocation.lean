import RouteWire.Proofs.Locality
import RouteWire.Proofs.Pcep.Logging
/-!
The readers of the protocol are local: what a TLV, a subobject or the body of an object says does not
depend on where it stands in the input, and what is read there neither leaves nor fails at anything
outside of it.

Main statements: `Tlv.uniformRead_ofFrame`, `Subobject.uniformRead_rroOfFrame`, and the instances for
`Tlv.readValue` and `ObjectValue.scan`.
-/
-- A reader of some ten parts is uniform by an instance of as many steps.
set_option synthInstance.maxSize 1024

namespace RouteWire.Pcep
open Framing Reader
variable {registry : Registry}

/-! ## TLVs -/

namespace Tlv

theorem uniform_framing : framing.Uniform := by
  intro distance slice
  simp only [framing, Slice.split?_moved]
  rcases slice.split? 4 with _ | ⟨header, behind⟩
  · rfl
  · dsimp only [Option.map_some, Slice.octets_moved]
    rw [Slice.split?_moved]
    rcases behind.split? (beValue (header.octets.drop 2)) with _ | ⟨value, rest⟩
    · rfl
    · dsimp only [Option.map_some, Slice.octets_moved]
      rw [Slice.skip_moved]
      rfl

theorem confined_framing : framing.Confined := by
  intro slice
  dsimp only [framing]
  cases cut : slice.split? 4 with
  | none => exact slice.failure_within _
  | some parts =>
    obtain ⟨header, behind⟩ := parts
    have inside := (Slice.within_of_split? cut).2
    dsimp only
    cases cutValue : behind.split? (beValue (header.octets.drop 2)) with
    | none => exact slice.failure_within _
    | some parts =>
      obtain ⟨value, rest⟩ := parts
      obtain ⟨here, after⟩ := Slice.within_of_split? cutValue
      exact ⟨⟨.refl slice, here.trans inside⟩,
        ((rest.skip_within _).trans after).trans inside⟩

instance (kind : TlvKind) (length : Nat) : (exactLength kind length).Local := by
  unfold exactLength
  infer_instance

instance (kind : TlvKind) (length : Nat) : (leastLength kind length).Local := by
  unfold leastLength
  infer_instance

instance (kind : TlvKind) (entry : Nat) : (wholeEntries kind entry).Local := by
  unfold wholeEntries
  infer_instance

instance (kind : TlvKind) : (readWord kind).Local := by
  unfold readWord
  infer_instance

instance (kind : TlvKind) : (readWords kind).Local := by
  unfold readWords
  infer_instance

instance : readVendorSubTlvs.Local :=
  confined_framing.local_readAll uniform_framing (confinedRead_of_value nofun) fun _ _ => rfl

instance : (readVendorInformation registry).Local := by
  unfold readVendorInformation
  infer_instance

instance : readStatefulPceCapability.Local := by
  unfold readStatefulPceCapability
  infer_instance

instance {α : Type} (address : Reader TlvReadError α) [address.Local] :
    (readLspIdentifiers address).Local := by
  unfold readLspIdentifiers
  infer_instance

instance (node : Address) : (readErrorSpec node).Local := by
  unfold readErrorSpec
  infer_instance

instance : readUserErrorSpec.Local := by
  unfold readUserErrorSpec
  infer_instance

instance : readRsvpErrorSpec.Local := by
  unfold readRsvpErrorSpec
  dsimp only
  infer_instance

instance : readSrPceCapability.Local := by
  unfold readSrPceCapability
  infer_instance

theorem uniformRead_setupTypeSubTlv : UniformRead readSetupTypeSubTlv := by
  intro distance frame
  rw [readSetupTypeSubTlv, readSetupTypeSubTlv, Frame.moved]
  dsimp only
  rw [inside_moved readSrPceCapability]
  split
  · cases readSrPceCapability.inside frame.value <;> rfl
  · rfl

theorem confinedRead_setupTypeSubTlv : ConfinedRead readSetupTypeSubTlv := by
  refine confinedRead_of_value fun frame failure failed => ?_
  rw [readSetupTypeSubTlv] at failed
  split at failed
  · split at failed
    · next inside =>
      cases failed
      exact within_of_inside inside
    · cases failed
  · cases failed

instance : (framing.readAll readSetupTypeSubTlv).Local :=
  confined_framing.local_readAll uniform_framing confinedRead_setupTypeSubTlv
    uniformRead_setupTypeSubTlv

instance : readPathSetupTypeCapability.Local := by
  unfold readPathSetupTypeCapability
  dsimp only
  infer_instance

instance (type : BindingType) : (readBindingValue type).Local := by
  cases type <;> (unfold readBindingValue; infer_instance)

instance : readPathBinding.Local := by
  unfold readPathBinding
  dsimp only
  infer_instance

instance (kind : TlvKind) : (readValue registry kind).Local := by
  cases kind <;> (unfold readValue; infer_instance)

theorem uniformRead_ofFrame : Scan.UniformRead (ofFrame registry) := by
  intro distance frame
  rw [records_ofFrame.apply, records_ofFrame.apply, Frame.moved]
  dsimp only
  cases registry.tlv? frame.header with
  | none => rfl
  | some kind =>
    dsimp only
    rw [inside_moved (readValue registry kind)]
    cases (readValue registry kind).inside frame.value <;> rfl

end Tlv

namespace TlvSet

theorem filled_moved {τ : Type} (insert : τ → Tlv → Option Tlv × τ) (distance : Nat)
    (stopped : Option (Failure TlvReadError)) (set : τ) (frames : List (Frame UInt16)) :
    filled insert registry (stopped.map (Failure.moved distance)) set
        (frames.map (Frame.moved distance)) =
      ((filled insert registry stopped set frames).1,
        (filled insert registry stopped set frames).2.mapError (Failure.moved distance)) := by
  induction frames generalizing set with
  | nil => cases stopped <;> rfl
  | cons frame frames ih =>
    rw [List.map_cons, filled, filled, Tlv.uniformRead_ofFrame]
    rcases Tlv.ofFrame registry frame with ⟨ignored, failure | _ | tlv⟩
    · rfl
    · dsimp only [Except.mapError]
      rw [ih]
      rfl
    · dsimp only [Except.mapError]
      rw [ih]
      rfl

instance {τ : Type} (insert : τ → Tlv → Option Tlv × τ) (start : τ) :
    (scanInto insert start).Uniform := by
  refine ⟨fun registry distance slice => ?_⟩
  rw [(records_scanInto insert start).apply, (records_scanInto insert start).apply,
    Tlv.uniform_framing.cutAll]
  dsimp only
  rw [filled_moved, Slice.finish_moved]
  rcases filled insert registry (Tlv.framing.cutAll slice).2 start (Tlv.framing.cutAll slice).1 with
    ⟨later, failure | result⟩ <;> rfl

instance {σ : Type} [TlvSet σ] : (scan : Scan TlvReadError σ).Uniform := by
  unfold scan
  infer_instance

end TlvSet

/-! ## Subobjects -/

namespace Subobject

theorem uniform_framing : framing.Uniform := by
  rintro distance ⟨offset, _ | ⟨header, _ | ⟨length, contents⟩⟩⟩
  · rfl
  · simp only [framing, Slice.moved]
    exact congrArg Except.error (congrArg (Failure.mk _ · _) (Nat.add_right_comm ..))
  · simp only [framing, Slice.moved]
    split
    · rfl
    · have place : offset + distance + 2 = offset + 2 + distance := Nat.add_right_comm ..
      have parts := Slice.split?_moved distance (length.toNat - 2) ⟨offset + 2, contents⟩
      rw [Slice.moved] at parts
      rw [place, parts]
      rcases Slice.split? ⟨offset + 2, contents⟩ (length.toNat - 2) with _ | ⟨value, rest⟩ <;> rfl

theorem confined_framing : framing.Confined := by
  rintro ⟨offset, _ | ⟨header, _ | ⟨length, contents⟩⟩⟩
  · exact Slice.failure_within _ _
  · exact (Slice.failure_within _ _).trans (Slice.skip_within _ 1)
  · dsimp only [framing]
    by_cases short : length < 2
    · rw [if_pos short]
      exact Slice.failure_within _ _
    · rw [if_neg short]
      cases cut : Slice.split? ⟨offset + 2, contents⟩ (length.toNat - 2) with
      | none => exact Slice.failure_within _ _
      | some parts =>
        obtain ⟨here, after⟩ := Slice.within_behind [header, length] cut
        exact ⟨⟨.refl _, here⟩, after⟩

instance (code : UInt16) (length : Nat) : (exactLength code length).Local := by
  unfold exactLength
  infer_instance

instance : readIpv4Network.Local := by
  unfold readIpv4Network
  infer_instance

instance : readIpv6Network.Local := by
  unfold readIpv6Network
  infer_instance

instance : readLabel.Local := by
  unfold readLabel
  refine .bind inferInstance fun type => ?_
  cases type <;> infer_instance

instance : readUnnumberedInterface.Local := by
  unfold readUnnumberedInterface
  infer_instance

instance : readAsNumber.Local := by
  unfold readAsNumber
  infer_instance

instance : readPathKeyIpv4.Local := by
  unfold readPathKeyIpv4
  infer_instance

instance : readPathKeyIpv6.Local := by
  unfold readPathKeyIpv6
  infer_instance

instance (type : NaiType) : (readNai type).Local := by
  cases type <;> (unfold readNai; infer_instance)

instance {α : Type} (absent : Bool) (reader : Reader SubobjectReadError α) [reader.Local] :
    (readUnless absent reader).Local := by
  unfold readUnless
  infer_instance

instance (noSid noNai : Nat) : (readSegmentHeader noSid noNai).Local := by
  unfold readSegmentHeader
  infer_instance

instance : readSegment.Local := by
  unfold readSegment
  infer_instance

instance : readSidStructure.Local := by
  unfold readSidStructure
  infer_instance

instance : readSrv6Segment.Local := by
  unfold readSrv6Segment
  infer_instance

instance (kind : EroKind) : (readEroValue kind).Local := by
  cases kind <;> (unfold readEroValue; infer_instance)

instance (kind : XroKind) : (readXroValue kind).Local := by
  cases kind <;> (unfold readXroValue; infer_instance)

instance (kind : RroKind) : (readRroValue kind).Local := by
  cases kind <;> (unfold readRroValue; infer_instance)

theorem uniformRead_eroOfFrame : UniformRead (eroOfFrame registry) := by
  intro distance frame
  rw [eroOfFrame, eroOfFrame, Frame.moved]
  dsimp only
  cases registry.ero? (frame.header % 128) with
  | none => rfl
  | some kind =>
    dsimp only
    rw [inside_moved (readEroValue kind)]
    cases (readEroValue kind).inside frame.value <;> rfl

theorem uniformRead_xroOfFrame : UniformRead (xroOfFrame registry) := by
  intro distance frame
  rw [xroOfFrame, xroOfFrame, Frame.moved]
  dsimp only
  cases registry.xro? (frame.header % 128) with
  | none => rfl
  | some kind =>
    dsimp only
    rw [inside_moved (readXroValue kind)]
    cases (readXroValue kind).inside frame.value <;> rfl

theorem uniformRead_rroOfFrame : Scan.UniformRead (rroOfFrame registry) := by
  intro distance frame
  rw [records_rroOfFrame.apply, records_rroOfFrame.apply, Frame.moved]
  dsimp only
  cases registry.rro? frame.header with
  | none => rfl
  | some kind =>
    dsimp only
    rw [inside_moved (readRroValue kind)]
    cases (readRroValue kind).inside frame.value <;> rfl

theorem confinedRead_eroOfFrame : ConfinedRead (eroOfFrame registry) := by
  intro slice frame failure within failed
  rw [eroOfFrame] at failed
  split at failed
  · cases failed
    exact (frame.start.failure_within _).trans within.1
  · split at failed
    · next inside =>
      cases failed
      exact (within_of_inside inside).trans within.2
    · cases failed

theorem confinedRead_xroOfFrame : ConfinedRead (xroOfFrame registry) := by
  intro slice frame failure within failed
  rw [xroOfFrame] at failed
  split at failed
  · cases failed
    exact (frame.start.failure_within _).trans within.1
  · split at failed
    · next inside =>
      cases failed
      exact (within_of_inside inside).trans within.2
    · cases failed

theorem local_readRoute {α : Type} {read : Frame UInt8 → Except (Failure SubobjectReadError) α}
    (reads : ConfinedRead read) (same : UniformRead read) : (readRoute read).Local := by
  have whole := confined_framing.local_readAll uniform_framing reads same
  refine { moved := fun distance slice => ?_, keeps := fun slice => ?_ }
  · rw [readRoute, readRoute, Slice.octets_moved]
    split
    · rfl
    · exact whole.moved distance slice
  · rw [readRoute]
    split
    · exact slice.failure_within _
    · exact whole.keeps slice

instance : (readEro registry).Local := local_readRoute confinedRead_eroOfFrame uniformRead_eroOfFrame

instance : (readXro registry).Local := local_readRoute confinedRead_xroOfFrame uniformRead_xroOfFrame

instance : scanRro.Uniform := Scan.uniform_elements uniform_framing fun _ => uniformRead_rroOfFrame

end Subobject

/-! ## Objects -/

namespace ObjectBody

instance : readOpening.Local := by
  unfold readOpening
  infer_instance

instance : readRequestParameters.Local := by
  unfold readRequestParameters
  infer_instance

instance : readNoPath.Local := by
  unfold readNoPath
  infer_instance

instance : readEndPointsIpv4.Local := by
  unfold readEndPointsIpv4
  infer_instance

instance : readEndPointsIpv6.Local := by
  unfold readEndPointsIpv6
  infer_instance

instance : readBinary32.Local := by
  unfold readBinary32
  infer_instance

instance : readMetric.Local := by
  unfold readMetric
  infer_instance

instance : readLspa.Local := by
  unfold readLspa
  infer_instance

instance : readSvec.Local := by
  unfold readSvec
  infer_instance

instance : readNotification.Local := by
  unfold readNotification
  infer_instance

instance : readError.Local := by
  unfold readError
  infer_instance

instance : readLoadBalancing.Local := by
  unfold readLoadBalancing
  infer_instance

instance : readClose.Local := by
  unfold readClose
  infer_instance

instance : (readExcludeRoute registry).Local := by
  unfold readExcludeRoute
  infer_instance

instance : readMonitoring.Local := by
  unfold readMonitoring
  infer_instance

instance : readObjectiveFunction.Local := by
  unfold readObjectiveFunction
  infer_instance

instance : readGlobalConstraints.Local := by
  unfold readGlobalConstraints
  infer_instance

instance : readProcessingTime.Local := by
  unfold readProcessingTime
  infer_instance

instance : readOverload.Local := by
  unfold readOverload
  infer_instance

instance (kind : ObjectKind) (length : Nat) : (wholeElements kind length).Local := by
  unfold wholeElements
  infer_instance

instance : readSrp.Local := by
  unfold readSrp
  infer_instance

instance {α : Type} (address : Reader ObjectReadError α) [address.Local] :
    (readAssociation address).Local := by
  unfold readAssociation
  infer_instance

instance {α : Type} (reader : Reader ObjectReadError α) [reader.Local] (body : α → ObjectBody) :
    (readOne reader body).Local := by
  unfold readOne
  infer_instance

instance (body : List EroSubobject → ObjectBody) : (readRoute registry body).Local := by
  unfold readRoute
  infer_instance

instance (body : List RroSubobject → ObjectBody) : (scanRoute body).Uniform := by
  unfold scanRoute
  infer_instance

instance {σ : Type} [TlvSet σ] (fixedPart : Reader ObjectReadError (σ → ObjectBody))
    [fixedPart.Uniform] : (withTlvs fixedPart).Uniform := by
  unfold withTlvs
  infer_instance

instance : readClassType.Local := by
  unfold readClassType
  infer_instance

instance (kind : ObjectKind) : (scan kind).Uniform := by
  cases kind <;> (unfold scan; infer_instance)

end ObjectBody

instance (kind : ObjectKind) : (ObjectValue.scan kind).Uniform := by
  refine ⟨fun registry distance slice => ?_⟩
  rw [(ObjectValue.records_scan kind).apply, (ObjectValue.records_scan kind).apply]
  dsimp only
  rw [Slice.octets_moved, Slice.failure_moved, Scan.apply_moved (ObjectBody.scan kind)]
  split
  · rfl
  · split
    · rw [Slice.skip_moved]
      rfl
    · rcases ObjectBody.scan kind registry slice with ⟨ignored, failure | ⟨body, rest⟩⟩ <;> rfl

end RouteWire.Pcep
