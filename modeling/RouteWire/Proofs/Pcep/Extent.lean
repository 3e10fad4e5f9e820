import RouteWire.Proofs.Pcep.Layout
/-!
Lengths in what is written. A message, an object, a TLV, a record inside a TLV, a subobject and a
signalling error each say a length. The extents of a value tell where these lengths stand in its octets
and which octets each of them counts; they follow the value, part by part, and never the octets.

Main statement: `lengths_exact`.
-/
namespace RouteWire.Pcep
variable {octets front back : List UInt8} {registry : Registry}

/-- A part that says a length: where it starts, where the length stands and in how many octets, and
which octets the length counts, from where on. -/
structure Extent where
  part : Nat
  field : Nat
  width : Nat
  start : Nat
  counted : List UInt8

namespace Extent

/-- The part starts at a multiple of four, the counted octets are where they are said to be, and the
length that stands in the field is their number, none of whose digits is lost. -/
structure Exact (whole : List UInt8) (extent : Extent) : Prop where
  aligned : extent.part % 4 = 0
  standsAt : StandsAt whole extent.start extent.counted
  length_eq : ∃ numeral : List UInt8, numeral.length = extent.width ∧
    StandsAt whole extent.field numeral ∧ beValue numeral = extent.counted.length

def record (value : List UInt8) (offset : Nat) : Extent := ⟨offset, offset + 2, 2, offset + 4, value⟩

def inclusive (before width : Nat) (octets : List UInt8) (offset : Nat) : Extent :=
  ⟨offset, offset + before, width, offset, octets⟩

end Extent

abbrev ExactAt : List UInt8 → (Nat → List Extent) → Prop := HoldsAt Extent.Exact

theorem exactAt_record {code : UInt16} {value : List UInt8} (fits : value.length ≤ 65535) :
    ExactAt (tlvOctets code value) fun offset => [.record value offset] := by
  intro whole offset aligned stands
  rw [tlvOctets, padOctets, standsAt_append, standsAt_append, standsAt_append] at stands
  obtain ⟨⟨-, field⟩, counted, -⟩ := stands
  rw [List.length_append, length_word16, length_beOctets] at counted
  rw [length_word16] at field
  exact List.forall_mem_singleton.mpr
    ⟨aligned, counted, _, length_beOctets .., field, beValue_beOctets_of_lt (Nat.lt_succ_of_le fits)⟩

theorem exactAt_inclusive {before width : Nat} {numeral : List UInt8}
    (parts : octets = front ++ numeral ++ back) (before_eq : front.length = before)
    (width_eq : numeral.length = width) (value : beValue numeral = octets.length) :
    ExactAt octets fun offset => [.inclusive before width octets offset] := by
  intro whole offset aligned stands
  refine List.forall_mem_singleton.mpr ⟨aligned, stands, numeral, width_eq, ?_, value⟩
  rw [parts, standsAt_append, standsAt_append, before_eq] at stands
  exact stands.1.2

/-! ## Parts of TLVs -/

def VendorInformation.extents : VendorInformation → (offset : Nat) → List Extent :=
  recordItems fun record offset => [.record record.value offset]

def PathSetupTypeCapability.extents : PathSetupTypeCapability → (offset : Nat) → List Extent :=
  recordItems fun record offset => [.record record.value offset]

namespace RsvpErrorSpec

def extents (spec : RsvpErrorSpec) (offset : Nat) : List Extent :=
  [.inclusive 0 2 spec.octets offset]

theorem exactAt_extents {spec : RsvpErrorSpec} (fits : spec.valueLength ≤ 65535) :
    ExactAt spec.octets spec.extents := by
  have parts : spec.octets = [] ++ beOctets 2 spec.valueLength ++ spec.octets.drop 2 :=
    (List.take_append_drop 2 spec.octets).symm
  refine exactAt_inclusive parts rfl (length_beOctets ..) ?_
  rw [Tlv.length_rsvpErrorSpec]
  exact beValue_beOctets_of_lt (Nat.lt_succ_of_le fits)

end RsvpErrorSpec

namespace Tlv
variable {tlv : Tlv}

def valueExtents : Tlv → (offset : Nat) → List Extent
  | vendorInformation information => information.extents
  | rsvpErrorSpec spec => spec.extents
  | pathSetupTypeCapability capability => capability.extents
  | _ => fun _ => []

def extents (registry : Registry) (tlv : Tlv) : (offset : Nat) → List Extent :=
  tlv.items registry (.record tlv.valueScript.octets) tlv.valueExtents

theorem exactAt_valueExtents (checked : tlv.check = none) (fits : tlv.valueLength ≤ 65535)
    (written : tlv.valueScript.toExcept = .ok octets) : ExactAt octets tlv.valueExtents := by
  cases tlv with
  | vendorInformation information =>
    exact VendorInformation.holdsAt_recordItems (fun _ => exactAt_record) written
  | rsvpErrorSpec spec =>
    rw [valueScript, Script.emit_ok] at written
    rw [written]
    exact RsvpErrorSpec.exactAt_extents fits
  | pathSetupTypeCapability capability =>
    rw [valueScript, Script.emit_ok] at written
    rw [written]
    exact PathSetupTypeCapability.holdsAt_recordItems (fun _ => exactAt_record) checked
  | _ => exact holdsAt_nil

theorem exactAt_extents (written : (tlv.script registry).failure = none) :
    ExactAt (tlv.script registry).octets (tlv.extents registry) := by
  refine holdsAt_items (fun value checked fits length found => ⟨?_, ?_⟩) written
  · rw [(Script.toExcept_ok.mp found).2]
    exact exactAt_record (by rwa [length])
  · exact exactAt_valueExtents checked fits found

end Tlv

def TlvSet.extents {σ : Type} [TlvSet σ] (registry : Registry) (set : σ) : (offset : Nat) → List Extent :=
  Tlv.itemsOfAll registry (Tlv.extents registry) (toList set)

/-! ## Subobjects -/

theorem Subobject.exactAt_header {flag : Bool} {code : UInt8} {length : Nat} {contents : List UInt8}
    (parts : octets = header flag code length ++ contents) (total : length = 2 + contents.length)
    (fits : length ≤ 255) : ExactAt octets fun offset => [.inclusive 1 1 octets offset] := by
  refine exactAt_inclusive (parts.trans (List.append_assoc [_] [UInt8.ofNat length] _).symm) rfl rfl ?_
  rw [parts, List.length_append, beValue, List.foldl_cons, List.foldl_nil, Nat.zero_mul,
    Nat.zero_add, UInt8.toNat_ofNat_of_lt' (Nat.lt_succ_of_le fits)]
  exact total

namespace EroSubobject
variable {subobject : EroSubobject}

def extents (registry : Registry) (subobject : EroSubobject) (offset : Nat) : List Extent :=
  [.inclusive 1 1 (subobject.script registry).octets offset]

theorem exactAt_extents (written : (subobject.script registry).failure = none) :
    ExactAt (subobject.script registry).octets (subobject.extents registry) := by
  obtain ⟨-, -, fits, contents, value, parts⟩ := script_ok.mp (Script.toExcept_of_failure written)
  exact Subobject.exactAt_header parts (by rw [EroValue.length_script value]) fits

end EroSubobject

namespace XroSubobject
variable {subobject : XroSubobject}

def extents (registry : Registry) (subobject : XroSubobject) (offset : Nat) : List Extent :=
  [.inclusive 1 1 (subobject.script registry).octets offset]

theorem exactAt_extents (written : (subobject.script registry).failure = none) :
    ExactAt (subobject.script registry).octets (subobject.extents registry) := by
  obtain ⟨-, fits, parts⟩ := script_ok.mp (Script.toExcept_of_failure written)
  exact Subobject.exactAt_header parts rfl (by rwa [XroValue.length_octets])

end XroSubobject

namespace RroSubobject
variable {subobject : RroSubobject}

def extents (registry : Registry) (subobject : RroSubobject) : (offset : Nat) → List Extent :=
  subobject.items registry (.inclusive 1 1 (subobject.script registry).octets)

theorem exactAt_extents (written : (subobject.script registry).failure = none) :
    ExactAt (subobject.script registry).octets (subobject.extents registry) :=
  holdsAt_items (fun _ fits length parts => Subobject.exactAt_header parts (by rw [length]) fits) written

end RroSubobject

namespace Subobject

def eroExtents (registry : Registry) : List EroSubobject → (offset : Nat) → List Extent :=
  eroItems registry (EroSubobject.extents registry)

def xroExtents (registry : Registry) : List XroSubobject → (offset : Nat) → List Extent :=
  xroItems registry (XroSubobject.extents registry)

def rroExtents (registry : Registry) : List RroSubobject → (offset : Nat) → List Extent :=
  rroItems registry (RroSubobject.extents registry)

end Subobject

/-! ## Objects and messages -/

def partExtents (registry : Registry) : PartItems Extent where
  tlv := Tlv.extents registry
  vendorSubTlv record offset := [.record record.value offset]
  ero := EroSubobject.extents registry
  rro := RroSubobject.extents registry
  xro := XroSubobject.extents registry

theorem partExtents_exact (registry : Registry) : (partExtents registry).Hold registry Extent.Exact where
  tlv _ := Tlv.exactAt_extents
  vendorSubTlv _ := exactAt_record
  ero _ := EroSubobject.exactAt_extents
  rro _ := RroSubobject.exactAt_extents
  xro _ := XroSubobject.exactAt_extents

namespace ObjectValue

def extents (registry : Registry) : ObjectValue → (offset : Nat) → List Extent
  | known body => body.items registry (partExtents registry)
  | unknown _ => fun _ => []

theorem exactAt_extents {value : ObjectValue} (written : (value.script registry).toExcept = .ok octets) :
    ExactAt octets (value.extents registry) := by
  cases value with
  | unknown body => exact holdsAt_nil
  | known body => exact ObjectBody.holdsAt_items (partExtents_exact registry) written

end ObjectValue

namespace Object
variable {object : Object}

def extents (registry : Registry) (object : Object) (offset : Nat) : List Extent :=
  .inclusive 2 2 (object.script registry).octets offset :: object.value.extents registry (offset + 4)

theorem exactAt_extents (written : (object.script registry).failure = none) :
    ExactAt (object.script registry).octets (object.extents registry) := by
  obtain ⟨-, fits, -, contents, -, parts⟩ := script_ok.mp (Script.toExcept_of_failure written)
  refine HoldsAt.cons ?_ (holdsAt_value (fun _ => ObjectValue.exactAt_extents) written)
  refine exactAt_inclusive parts rfl (length_beOctets ..) ?_
  rw [length_script written]
  exact beValue_beOctets_of_lt (Nat.lt_succ_of_le fits)

theorem length_script_mod (written : (object.script registry).failure = none) :
    (object.script registry).octets.length % 4 = 0 := by
  rw [length_script written]
  exact padded_mod _

end Object

namespace Message
variable {message : Message}

def extents (registry : Registry) (message : Message) (offset : Nat) : List Extent :=
  .inclusive 2 2 (message.script registry).octets offset ::
    endToEnd (fun object => (object.script registry).octets) (Object.extents registry)
      message.objects (offset + 4)

theorem length_script (written : (message.script registry).toExcept = .ok octets) :
    octets.length = message.length registry := by
  obtain ⟨-, runs, rfl⟩ := script_ok.mp written
  rw [List.length_append, Object.length_flatMap_script runs, header, List.length_append,
    length_beOctets]
  rfl

theorem exactAt_extents (written : (message.script registry).toExcept = .ok octets) :
    ExactAt octets (message.extents registry) := by
  have length := length_script written
  obtain ⟨fits, runs, parts⟩ := script_ok.mp written
  obtain ⟨-, rfl⟩ := Script.toExcept_ok.mp written
  refine HoldsAt.cons ?_ ?_
  · refine exactAt_inclusive parts rfl (length_beOctets ..) ?_
    rw [length]
    exact beValue_beOctets_of_lt (Nat.lt_succ_of_le fits)
  · rw [parts]
    refine (holdsAt_endToEnd fun object member => ⟨Object.length_script_mod (runs object member),
      Object.exactAt_extents (runs object member)⟩).behind ?_ (by decide)
    rw [header, List.length_append, length_beOctets]
    rfl

end Message

/-- If a script runs to its end, then it writes so many octets, and the extents are exact in them. -/
def WritesExactly {ε : Type} (script : Script ε) (length : Nat) (extents : List Extent) : Prop :=
  ∀ octets, script.run none = (octets, none) →
    octets.length = length ∧ ∀ extent ∈ extents, extent.Exact octets

theorem writesExactly {ε : Type} {script : Script ε} {length : Nat} {extents : Nat → List Extent}
    (total : ∀ {octets}, script.toExcept = .ok octets → octets.length = length)
    (each : ∀ {octets}, script.toExcept = .ok octets → ExactAt octets extents) :
    WritesExactly script length (extents 0) := by
  intro octets written
  have ran := Script.run_none_iff.mp written
  exact ⟨total ran, each ran rfl (standsAt_zero octets)⟩

theorem writesExactly_octets {ε : Type} {script : Script ε} {length : Nat}
    {extents : Nat → List Extent} (total : script.failure = none → script.octets.length = length)
    (each : script.failure = none → ExactAt script.octets extents) :
    WritesExactly script length (extents 0) := by
  refine writesExactly (fun ran => ?_) fun ran => ?_ <;>
    obtain ⟨runs, rfl⟩ := Script.toExcept_ok.mp ran
  · exact total runs
  · exact each runs

/-- What is written has the length that is computed beforehand, and every length that stands in it is
the number of the octets that it counts. -/
theorem lengths_exact (registry : Registry) :
    (∀ message : Message, WritesExactly (message.script registry) (message.length registry)
      (message.extents registry 0)) ∧
    (∀ object : Object, WritesExactly (object.script registry) (object.length registry)
      (object.extents registry 0)) ∧
    (∀ tlv : Tlv, WritesExactly (tlv.script registry) (tlv.length registry)
      (tlv.extents registry 0)) ∧
    (∀ (σ : Type) [TlvSet σ] (set : σ), WritesExactly (TlvSet.script registry set)
      (TlvSet.length registry set) (TlvSet.extents registry set 0)) ∧
    (∀ subobject : EroSubobject, WritesExactly (subobject.script registry) subobject.length
      (subobject.extents registry 0)) ∧
    (∀ subobject : XroSubobject, WritesExactly (subobject.script registry) subobject.length
      (subobject.extents registry 0)) ∧
    (∀ subobject : RroSubobject, WritesExactly (subobject.script registry)
      (subobject.length registry) (subobject.extents registry 0)) ∧
    (∀ route : List EroSubobject, WritesExactly (Subobject.eroScript registry route)
      (Subobject.eroLength route) (Subobject.eroExtents registry route 0)) ∧
    (∀ route : List XroSubobject, WritesExactly (Subobject.xroScript registry route)
      (Subobject.xroLength route) (Subobject.xroExtents registry route 0)) ∧
    (∀ route : List RroSubobject, WritesExactly (Subobject.rroScript registry route)
      (Subobject.rroLength registry route) (Subobject.rroExtents registry route 0)) := by
  refine ⟨fun message => ?_, fun object => ?_, fun tlv => ?_, fun σ _ set => ?_, fun subobject => ?_,
    fun subobject => ?_, fun subobject => ?_, fun route => ?_, fun route => ?_, fun route => ?_⟩
  · exact writesExactly Message.length_script Message.exactAt_extents
  · exact writesExactly_octets Object.length_script Object.exactAt_extents
  · exact writesExactly_octets Tlv.length_script Tlv.exactAt_extents
  · exact writesExactly Tlv.length_scriptAll (Tlv.holdsAt_scriptAll fun _ => Tlv.exactAt_extents)
  · exact writesExactly_octets EroSubobject.length_script EroSubobject.exactAt_extents
  · exact writesExactly_octets XroSubobject.length_script XroSubobject.exactAt_extents
  · exact writesExactly_octets RroSubobject.length_script RroSubobject.exactAt_extents
  · exact writesExactly Subobject.length_eroScript
      (Subobject.holdsAt_eroScript fun _ => EroSubobject.exactAt_extents)
  · exact writesExactly Subobject.length_xroScript
      (Subobject.holdsAt_xroScript fun _ => XroSubobject.exactAt_extents)
  · exact writesExactly Subobject.length_rroScript
      (Subobject.holdsAt_rroScript fun _ => RroSubobject.exactAt_extents)

/-- A report whose objects have records of both sorts, a signalling error and two hops in them. -/
def Message.nested : Message where
  type := .report
  objects :=
    [⟨⟨true, false⟩, .known (.opening ⟨0, 30, 120, 1,
        { pathSetupTypeCapability :=
            some ⟨[0, 1], [.srPceCapability ⟨true, false, 10⟩, .unknown 5 [7]]⟩
          vendorInformation := [⟨9, .subTlvs [⟨1, [2, 3, 4]⟩, ⟨6, []⟩]⟩] }⟩)⟩,
      ⟨⟨true, false⟩, .known (.lsp ⟨1, true, false, false, true, .up, false,
        { symbolicPathName := some [112]
          rsvpErrorSpec := some (.userErrorSpec ⟨9, 0, 1, [104, 105], []⟩) }⟩)⟩,
      ⟨⟨false, true⟩, .known (.explicitRoute
        [⟨true, .asNumber 64512⟩,
          ⟨false, .segmentRouting ⟨.absent, false, true, some 4096, none⟩⟩])⟩]

def Message.nestedOctets : List UInt8 :=
  [32, 10, 0, 112,
    1, 18, 0, 56, 32, 30, 120, 1,
      0, 34, 0, 24, 0, 0, 0, 2, 0, 1, 0, 0, 0, 26, 0, 4, 0, 0, 2, 10, 0, 5, 0, 1, 7, 0, 0, 0,
      0, 7, 0, 16, 0, 0, 0, 9, 0, 1, 0, 3, 2, 3, 4, 0, 0, 6, 0, 0,
    32, 18, 0, 36, 0, 0, 16, 25,
      0, 17, 0, 1, 112, 0, 0, 0,
      0, 21, 0, 16, 0, 16, 194, 1, 0, 0, 0, 9, 0, 2, 0, 1, 104, 105, 0, 0,
    7, 17, 0, 16, 160, 4, 252, 0, 36, 8, 0, 9, 0, 0, 16, 0]

theorem lengths_exact_nested :
    Message.nestedOctets.length = Message.nested.length .full ∧
      (∀ extent ∈ Message.nested.extents .full 0, extent.Exact Message.nestedOctets) ∧
      (Message.nested.extents .full 0).map (fun extent => (extent.part, extent.counted.length)) =
        [(0, 112), (4, 56), (12, 24), (24, 4), (32, 1), (40, 16), (48, 3), (56, 0), (60, 36), (68, 1),
          (76, 16), (80, 16), (96, 16), (100, 4), (104, 8)] := by
  have written : (Message.nested.script .full).run none = (Message.nestedOctets, none) := by
    decide +kernel
  obtain ⟨total, exactly⟩ := (lengths_exact .full).1 Message.nested _ written
  exact ⟨total, exactly, by decide +kernel⟩

end RouteWire.Pcep
