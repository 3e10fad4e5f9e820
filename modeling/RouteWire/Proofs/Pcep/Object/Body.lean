import RouteWire.Proofs.Pcep.Object.Fixed
import RouteWire.Proofs.Pcep.Object.Tail
import RouteWire.Proofs.Pcep.Object.Whole
/-!
Bodies, written and read. A body that is written is read back, up to the TLVs and the subobjects of
reported routes that the registry does not know. A body that was read knows no such parts, passes the
checks of writing, and is not longer than what it was read from.

Main statements: `scan_script`, `rewritable_of_scan`.
-/
namespace RouteWire.Pcep
open Reader

namespace ObjectBody
variable {registry : Registry} {slice rest : Slice} {octets : List UInt8} {body : ObjectBody}

/-- A body without the TLVs and the subobjects of reported routes whose codes are not registered. -/
def enabled (registry : Registry) : ObjectBody → ObjectBody
  | opening body => .opening { body with tlvs := known body.tlvs }
  | requestParameters body => .requestParameters { body with tlvs := known body.tlvs }
  | noPath body => .noPath { body with tlvs := known body.tlvs }
  | lspa body => .lspa { body with tlvs := known body.tlvs }
  | notification body => .notification { body with tlvs := known body.tlvs }
  | error body => .error { body with tlvs := known body.tlvs }
  | close body => .close { body with tlvs := known body.tlvs }
  | monitoring body => .monitoring { body with tlvs := known body.tlvs }
  | objectiveFunction body => .objectiveFunction { body with tlvs := known body.tlvs }
  | globalConstraints body => .globalConstraints { body with tlvs := known body.tlvs }
  | lsp body => .lsp { body with tlvs := known body.tlvs }
  | srp body => .srp { body with tlvs := known body.tlvs }
  | associationIpv4 body => .associationIpv4 { body with tlvs := known body.tlvs }
  | associationIpv6 body => .associationIpv6 { body with tlvs := known body.tlvs }
  | reportedRoute route => .reportedRoute (route.filter (RroSubobject.isRegistered registry))
  | secondaryReportedRoute route =>
    .secondaryReportedRoute (route.filter (RroSubobject.isRegistered registry))
  | body => body
where
  known {σ : Type} [TlvSet σ] [SelectiveTlvSet σ] : σ → σ :=
    SelectiveTlvSet.select (Tlv.isRegistered registry)

/-- The fields that are written without a check have values that are read back. -/
def InRange : ObjectBody → Prop
  | requestParameters body => body.priority.toNat ≤ 7
  | classType number => number.toNat ≤ maxClassType.toNat
  | unreachDestinationIpv4 destinations => destinations ≠ []
  | unreachDestinationIpv6 destinations => destinations ≠ []
  | _ => True

def Readable (registry : Registry) (body : ObjectBody) : Prop :=
  body.InRange ∧ body.tail.Readable registry

theorem length_fixedPart (body : ObjectBody) : body.fixedPart.length = body.fixedLength := by
  cases body with
  | svec body =>
    simp only [fixedPart, fixedLength, List.length_append, List.length_cons, length_beOctets,
      length_flatMap_of_width length_word32]
  | unreachDestinationIpv4 destinations => exact length_flatMap_of_width Ipv4.length_octets _
  | unreachDestinationIpv6 destinations => exact length_flatMap_of_width Ipv6.length_octets _
  | _ => simp [fixedPart, fixedLength, Binary32.octets, AssociationBody.octets]

theorem fixedLength_mod (body : ObjectBody) : body.fixedLength % 4 = 0 := by
  cases body <;> simp only [fixedLength]
  all_goals omega

theorem leastLength_le (inRange : body.InRange) : body.kind.leastLength ≤ body.fixedLength := by
  cases body with
  | unreachDestinationIpv4 destinations =>
    have := List.length_pos_iff.mpr inRange
    simp only [kind, ObjectKind.leastLength, fixedLength]
    omega
  | unreachDestinationIpv6 destinations =>
    have := List.length_pos_iff.mpr inRange
    simp only [kind, ObjectKind.leastLength, fixedLength]
    omega
  | _ => simp [kind, ObjectKind.leastLength, fixedLength]

/-! ## Bodies that are written -/

section WithTlvs
variable {σ : Type} [TlvSet σ] [LawfulTlvSet σ] [SelectiveTlvSet σ]
  {fixed : Reader ObjectReadError (σ → ObjectBody)} {make : σ → ObjectBody}

theorem withTlvs_script (canonical : registry.Canonical) {front back : List UInt8} {set : σ}
    (reads : ∀ {slice rest}, Behind slice front rest → fixed slice = .ok (make, rest))
    (readable : (Tail.tlvs (TlvSet.toList set)).Readable registry)
    (written : ((Tail.tlvs (TlvSet.toList set)).script registry).toExcept = .ok back) (offset : Nat) :
    ∃ rest, withTlvs fixed registry ⟨offset, front ++ back⟩ =
      (∅, .ok (make (enabled.known registry set), rest)) := by
  have scanned : TlvSet.scan registry ⟨offset + front.length, back⟩ = _ :=
    TlvSet.scan_script canonical readable (Script.mapError_ok.mp written)
  refine ⟨⟨offset + front.length + back.length, []⟩, ?_⟩
  rw [withTlvs, Scan.bind_ok]
  refine ⟨∅, ∅, make, _, Scan.ofReader_ok.mpr ⟨rfl, reads behind_append⟩, ?_,
    (Ignored.empty_append _).symm⟩
  rw [Scan.bind_ok]
  exact ⟨∅, ∅, _, _, Scan.mapError_ok.mpr scanned, Scan.pure_ok.mpr ⟨rfl, rfl, rfl⟩,
    (Ignored.empty_append _).symm⟩

end WithTlvs

theorem readRoute_script (canonical : registry.Canonical) {route : List EroSubobject}
    {make : List EroSubobject → ObjectBody} {offset : Nat}
    (readable : (Tail.explicitRoute route).Readable registry)
    (written : ((Tail.explicitRoute route).script registry).toExcept = .ok octets) :
    ∃ rest, Scan.ofReader (fun registry => readRoute registry make) registry ⟨offset, octets⟩ =
      (∅, .ok (make route, rest)) := by
  have found : Subobject.readEro registry ⟨offset, octets⟩ = _ :=
    Subobject.readEro_script canonical readable (Script.mapError_ok.mp written)
  exact ⟨_, Scan.ofReader_ok.mpr ⟨rfl,
    Reader.bind_ok.mpr ⟨_, _, Reader.mapError_ok.mpr found, rfl⟩⟩⟩

theorem scanRoute_script (canonical : registry.Canonical) {route : List RroSubobject}
    {make : List RroSubobject → ObjectBody} {offset : Nat}
    (readable : (Tail.reportedRoute route).Readable registry)
    (written : ((Tail.reportedRoute route).script registry).toExcept = .ok octets) :
    ∃ rest, scanRoute make registry ⟨offset, octets⟩ =
      (∅, .ok (make (route.filter (RroSubobject.isRegistered registry)), rest)) := by
  have found : Subobject.scanRro registry ⟨offset, octets⟩ = _ :=
    Subobject.scanRro_script canonical readable (Script.mapError_ok.mp written)
  exact ⟨_, Scan.bind_ok.mpr ⟨∅, ∅, _, _, Scan.mapError_ok.mpr found,
    Scan.pure_ok.mpr ⟨rfl, rfl, rfl⟩, (Ignored.empty_append _).symm⟩⟩

theorem readExcludeRoute_octets {body : ExcludeRouteBody} {slice mid rest : Slice}
    (behind : Behind slice (fixedPart (.excludeRoute body)) mid)
    (found : Subobject.readXro registry mid = .ok (body.route, rest)) :
    readExcludeRoute registry slice = .ok (.excludeRoute body, rest) := by
  obtain ⟨_, reserved, flags⟩ := behind_append_iff.mp behind
  simp only [readExcludeRoute, Reader.bind_ok, word16_ok, number_ok, Reader.mapError_ok, pure_ok]
  refine ⟨0, _, reserved, _, _, ⟨bitsValue_lt_of (by simp), flags⟩, _, _, found, ?_, rfl⟩
  rw [testBit_bitsValue]
  rfl

theorem ofReader_whole {reader : Registry → Reader ObjectReadError ObjectBody} {offset : Nat}
    (reads : ∀ {slice rest}, Behind slice octets rest → rest.octets = [] →
      ∃ after, reader registry slice = .ok (body, after)) :
    ∃ after, Scan.ofReader reader registry ⟨offset, octets ++ []⟩ = (∅, .ok (body, after)) := by
  rw [List.append_nil]
  obtain ⟨after, found⟩ := reads behind_whole rfl
  exact ⟨after, Scan.ofReader_ok.mpr ⟨rfl, found⟩⟩

theorem scan_script (canonical : registry.Canonical) (readable : body.Readable registry)
    (checked : body.check = none) {back : List UInt8}
    (written : (body.tail.script registry).toExcept = .ok back) (offset : Nat) :
    ∃ rest, scan body.kind registry ⟨offset, body.fixedPart ++ back⟩ =
      (∅, .ok (body.enabled registry, rest)) := by
  obtain ⟨inRange, tailReadable⟩ := readable
  unfold scan
  cases body with
  | opening body =>
    exact withTlvs_script canonical (readOpening_octets checked) tailReadable written offset
  | requestParameters body =>
    exact withTlvs_script canonical (readRequestParameters_octets inRange) tailReadable written offset
  | noPath body => exact withTlvs_script canonical readNoPath_octets tailReadable written offset
  | lspa body => exact withTlvs_script canonical readLspa_octets tailReadable written offset
  | notification body =>
    exact withTlvs_script canonical readNotification_octets tailReadable written offset
  | error body => exact withTlvs_script canonical readError_octets tailReadable written offset
  | close body => exact withTlvs_script canonical readClose_octets tailReadable written offset
  | monitoring body => exact withTlvs_script canonical readMonitoring_octets tailReadable written offset
  | objectiveFunction body =>
    exact withTlvs_script canonical readObjectiveFunction_octets tailReadable written offset
  | globalConstraints body =>
    exact withTlvs_script canonical readGlobalConstraints_octets tailReadable written offset
  | lsp body => exact withTlvs_script canonical (readLsp_octets checked) tailReadable written offset
  | srp body => exact withTlvs_script canonical readSrp_octets tailReadable written offset
  | associationIpv4 body =>
    exact withTlvs_script canonical (readAssociationIpv4_octets body) tailReadable written offset
  | associationIpv6 body =>
    have found :=
      withTlvs_script canonical (readAssociationIpv6_octets body) tailReadable written offset
    exact found
  | explicitRoute route | includeRoute route | pathKey route | secondaryExplicitRoute route =>
    exact readRoute_script canonical tailReadable written
  | reportedRoute route | secondaryReportedRoute route =>
    exact scanRoute_script canonical tailReadable written
  | excludeRoute body =>
    have found : Subobject.readXro registry ⟨offset + 4, back⟩ = _ :=
      Subobject.readXro_script canonical (Script.mapError_ok.mp written)
    have reads := readExcludeRoute_octets behind_append found
    exact ⟨_, Scan.ofReader_ok.mpr ⟨rfl, reads⟩⟩
  | vendorInformation information =>
    have whole : Behind ⟨offset, back⟩ back ⟨offset + back.length, []⟩ := behind_whole
    obtain ⟨after, found⟩ := Tlv.readVendorInformation_script tailReadable.1
      (Script.mapError_ok.mp written) whole rfl
    exact ⟨after, Scan.ofReader_ok.mpr ⟨rfl, readOne_ok.mpr ⟨_, Reader.mapError_ok.mpr found, rfl⟩⟩⟩
  | endPointsIpv4 source destination =>
    cases Script.done_ok.mp written
    exact ofReader_whole fun behind _ => ⟨_, readEndPointsIpv4_octets behind⟩
  | endPointsIpv6 source destination =>
    cases Script.done_ok.mp written
    exact ofReader_whole fun behind _ => ⟨_, readEndPointsIpv6_octets behind⟩
  | requestedBandwidth bandwidth | existingBandwidth bandwidth =>
    cases Script.done_ok.mp written
    exact ofReader_whole fun behind _ => ⟨_, readOne_ok.mpr ⟨_, readBinary32_ok.mpr behind, rfl⟩⟩
  | metric body =>
    cases Script.done_ok.mp written
    exact ofReader_whole fun behind _ => ⟨_, readMetric_octets behind⟩
  | svec body =>
    cases Script.done_ok.mp written
    exact ofReader_whole readSvec_octets
  | loadBalancing body =>
    cases Script.done_ok.mp written
    exact ofReader_whole fun behind _ => ⟨_, readLoadBalancing_octets behind⟩
  | pccRequestIdIpv4 address | pceIdIpv4 address =>
    cases Script.done_ok.mp written
    exact ofReader_whole fun behind _ => ⟨_, readOne_ok.mpr ⟨_, ipv4_ok.mpr behind, rfl⟩⟩
  | pccRequestIdIpv6 address | pceIdIpv6 address =>
    cases Script.done_ok.mp written
    exact ofReader_whole fun behind _ => ⟨_, readOne_ok.mpr ⟨_, ipv6_ok.mpr behind, rfl⟩⟩
  | classType number =>
    cases Script.done_ok.mp written
    exact ofReader_whole fun behind _ => ⟨_, readClassType_octets behind⟩
  | processingTime body =>
    cases Script.done_ok.mp written
    exact ofReader_whole fun behind _ => ⟨_, readProcessingTime_octets behind⟩
  | overload duration =>
    cases Script.done_ok.mp written
    exact ofReader_whole fun behind _ => ⟨_, readOverload_octets behind⟩
  | unreachDestinationIpv4 destinations =>
    cases Script.done_ok.mp written
    exact ofReader_whole
      (readDestinations_flatMap (by decide) Ipv4.length_octets Ipv4.ofOctets_octets)
  | unreachDestinationIpv6 destinations =>
    cases Script.done_ok.mp written
    exact ofReader_whole
      (readDestinations_flatMap (by decide) Ipv6.length_octets Ipv6.ofOctets_octets)

/-! ## Bodies that were read -/

/-- What holds of a body of some kind that was read from a slice of some length: it is read back as it
is once it is written, and writing it needs no more octets and cannot fail but for segments without an
identifier. -/
structure Rewritable (registry : Registry) (kind : ObjectKind) (length : Nat) (body : ObjectBody) :
    Prop where
  kind_eq : body.kind = kind
  checked : body.check = none
  readable : body.Readable registry
  enabled_eq : body.enabled registry = body
  writes : body.tail.Identified → (body.tail.script registry).failure = none
  length_le : body.fixedLength + body.tail.length registry ≤ length

theorem Rewritable.whole {kind : ObjectKind} {length : Nat} (kind_eq : body.kind = kind)
    (tail_eq : body.tail = .nothing) (checked : body.check = none) (inRange : body.InRange)
    (enabled_eq : body.enabled registry = body) (fits : body.fixedLength ≤ length) :
    Rewritable registry kind length body where
  kind_eq := kind_eq
  checked := checked
  readable := ⟨inRange, by rw [tail_eq]; trivial⟩
  enabled_eq := enabled_eq
  writes _ := by rw [tail_eq]; rfl
  length_le := by rw [tail_eq]; exact fits

section WithTlvs
variable {σ : Type} [TlvSet σ] [LawfulTlvSet σ] [SelectiveTlvSet σ]

structure Carries (registry : Registry) (kind : ObjectKind) (make : σ → ObjectBody) : Prop where
  kind_eq : ∀ set, (make set).kind = kind := by exact fun _ => rfl
  tail_eq : ∀ set, (make set).tail = .tlvs (TlvSet.toList set) := by exact fun _ => rfl
  checked : ∀ set, (make set).check = none := by exact fun _ => rfl
  inRange : ∀ set, (make set).InRange := by exact fun _ => trivial
  enabled_eq : ∀ set, (make set).enabled registry = make (enabled.known registry set) := by
    exact fun _ => rfl
  fixedLength_eq : ∀ set, (make set).fixedLength = kind.leastLength := by exact fun _ => rfl

theorem rewritable_of_withTlvs (canonical : registry.Canonical) {kind : ObjectKind}
    {fixed : Reader ObjectReadError (σ → ObjectBody)} {ignored : Ignored}
    (short : slice.octets.length ≤ 65535) (whole : slice.octets.length % 4 = 0)
    (each : ∀ {make rest}, fixed slice = .ok (make, rest) →
      slice.octets.length = kind.leastLength + rest.octets.length ∧ Carries registry kind make)
    (found : withTlvs fixed registry slice = (ignored, .ok (body, rest))) :
    Rewritable registry kind slice.octets.length body := by
  obtain ⟨_, _, make, mid, front, tlvs, -⟩ := Scan.bind_ok.mp found
  obtain ⟨_, _, set, after, scanned, value, -⟩ := Scan.bind_ok.mp tlvs
  obtain ⟨-, rfl, rfl⟩ := Scan.pure_ok.mp value
  obtain ⟨length, carries⟩ := each (Scan.ofReader_ok.mp front).2
  have aligned : mid.octets.length % 4 = 0 := by
    have fixed := fixedLength_mod (make set)
    rw [carries.fixedLength_eq] at fixed
    omega
  obtain ⟨readable, selected, writes, sum⟩ := TlvSet.set_of_scan canonical
    (by rw [padded_of_mod aligned]; omega) (Scan.mapError_ok.mp scanned)
  rw [padded_of_mod aligned] at sum
  refine ⟨carries.kind_eq set, carries.checked set, ⟨carries.inRange set, ?_⟩, ?_, fun _ => ?_, ?_⟩
  · rw [carries.tail_eq]
    exact readable
  · rw [carries.enabled_eq]
    exact congrArg make selected
  · rw [carries.tail_eq]
    exact Option.map_eq_none_iff.mpr writes
  · rw [carries.tail_eq, carries.fixedLength_eq, length]
    exact Nat.add_le_add_left sum _

end WithTlvs

theorem rewritable_of_readRoute (canonical : registry.Canonical) {kind : ObjectKind}
    {make : List EroSubobject → ObjectBody} {ignored : Ignored}
    (shape : ∀ route, (make route).kind = kind ∧ (make route).tail = .explicitRoute route ∧
      (make route).check = none ∧ (make route).InRange ∧ (make route).enabled registry = make route ∧
      (make route).fixedLength = 0)
    (found : Scan.ofReader (fun registry => readRoute registry make) registry slice =
      (ignored, .ok (body, rest))) :
    Rewritable registry kind slice.octets.length body := by
  obtain ⟨route, read, rfl⟩ := readOne_ok.mp (Scan.ofReader_ok.mp found).2
  obtain ⟨consistent, length, writes⟩ :=
    Subobject.ero_of_read canonical (Reader.mapError_ok.mp read)
  obtain ⟨kind_eq, tail_eq, checked, inRange, enabled_eq, fixedLength_eq⟩ := shape route
  refine ⟨kind_eq, checked, ⟨inRange, ?_⟩, enabled_eq, ?_, ?_⟩
  · rw [tail_eq]
    exact consistent
  · rw [tail_eq]
    exact fun identified => Option.map_eq_none_iff.mpr (writes identified)
  · rw [tail_eq, fixedLength_eq, Nat.zero_add]
    exact length

theorem rewritable_of_scanRoute (canonical : registry.Canonical) {kind : ObjectKind}
    {make : List RroSubobject → ObjectBody} {ignored : Ignored}
    (shape : ∀ route, (make route).kind = kind ∧ (make route).tail = .reportedRoute route ∧
      (make route).check = none ∧ (make route).InRange ∧
      (make route).enabled registry = make (route.filter (RroSubobject.isRegistered registry)) ∧
      (make route).fixedLength = 0)
    (found : scanRoute make registry slice = (ignored, .ok (body, rest))) :
    Rewritable registry kind slice.octets.length body := by
  obtain ⟨_, _, route, after, scanned, value, -⟩ := Scan.bind_ok.mp found
  obtain ⟨-, rfl, rfl⟩ := Scan.pure_ok.mp value
  obtain ⟨sound, length, writes⟩ := Subobject.rro_of_scan canonical (Scan.mapError_ok.mp scanned)
  obtain ⟨kind_eq, tail_eq, checked, inRange, enabled_eq, fixedLength_eq⟩ := shape route
  refine ⟨kind_eq, checked, ⟨inRange, ?_⟩, ?_, ?_, ?_⟩
  · rw [tail_eq]
    exact fun subobject member => (sound subobject member).1
  · rw [enabled_eq, List.filter_eq_self.mpr fun subobject member => (sound subobject member).2]
  · rw [tail_eq]
    exact fun identified => Option.map_eq_none_iff.mpr (writes identified)
  · rw [tail_eq, fixedLength_eq, Nat.zero_add]
    exact length

theorem rewritable_of_readExcludeRoute (canonical : registry.Canonical)
    (found : readExcludeRoute registry slice = .ok (body, rest)) :
    Rewritable registry .excludeRoute slice.octets.length body := by
  simp only [readExcludeRoute, Reader.bind_ok, word16_ok, number_ok, Reader.mapError_ok, pure_ok]
    at found
  obtain ⟨_, _, reserved, _, _, ⟨-, flags⟩, route, _, read, rfl, rfl⟩ := found
  obtain ⟨length, writes⟩ := Subobject.xro_of_read canonical read
  refine ⟨rfl, rfl, ⟨trivial, trivial⟩, rfl, fun _ => Option.map_eq_none_iff.mpr writes, ?_⟩
  rw [reserved.length, flags.length, length_word16, length_beOctets]
  change 4 + Subobject.xroLength route ≤ _
  omega

theorem rewritable_of_readVendor (whole : slice.octets.length % 4 = 0)
    (found : readOne ((Tlv.readVendorInformation registry).mapError .tlv) .vendorInformation slice =
      .ok (body, rest)) :
    Rewritable registry .vendorInformation slice.octets.length body := by
  obtain ⟨information, one, rfl⟩ := readOne_ok.mp found
  have read := Reader.mapError_ok.mp one
  obtain ⟨structured, writes, length⟩ := Tlv.vendor_of_read read
  rw [padded_of_mod whole] at length
  refine ⟨rfl, rfl, ⟨trivial, structured, Tlv.valueLength_mod_of_read whole read⟩, rfl,
    fun _ => Option.map_eq_none_iff.mpr writes, ?_⟩
  change 0 + information.valueLength ≤ _
  rwa [Nat.zero_add]

theorem rewritable_of_scan (canonical : registry.Canonical) {kind : ObjectKind} {ignored : Ignored}
    (short : slice.octets.length ≤ 65535) (whole : slice.octets.length % 4 = 0)
    (least : kind.leastLength ≤ slice.octets.length)
    (accepted : ObjectValue.refusal? kind slice.octets = none)
    (found : scan kind registry slice = (ignored, .ok (body, rest))) :
    Rewritable registry kind slice.octets.length body := by
  unfold scan at found
  cases kind with
  | opening =>
    refine rewritable_of_withTlvs canonical short whole (fun front => ?_) found
    obtain ⟨length, body, small, rfl⟩ := opening_of_read front
    exact ⟨length, { checked := fun _ => openingCheck.mpr small }⟩
  | requestParameters =>
    refine rewritable_of_withTlvs canonical short whole (fun front => ?_) found
    obtain ⟨length, body, small, rfl⟩ := requestParameters_of_read front
    exact ⟨length, { inRange := fun _ => small }⟩
  | noPath =>
    refine rewritable_of_withTlvs canonical short whole (fun front => ?_) found
    obtain ⟨length, body, rfl⟩ := noPath_of_read front
    exact ⟨length, {}⟩
  | lspa =>
    refine rewritable_of_withTlvs canonical short whole (fun front => ?_) found
    obtain ⟨length, body, rfl⟩ := lspa_of_read front
    exact ⟨length, {}⟩
  | notification =>
    refine rewritable_of_withTlvs canonical short whole (fun front => ?_) found
    obtain ⟨length, body, rfl⟩ := notification_of_read front
    exact ⟨length, {}⟩
  | error =>
    refine rewritable_of_withTlvs canonical short whole (fun front => ?_) found
    obtain ⟨length, body, rfl⟩ := error_of_read front
    exact ⟨length, {}⟩
  | close =>
    refine rewritable_of_withTlvs canonical short whole (fun front => ?_) found
    obtain ⟨length, body, rfl⟩ := close_of_read front
    exact ⟨length, {}⟩
  | monitoring =>
    refine rewritable_of_withTlvs canonical short whole (fun front => ?_) found
    obtain ⟨length, body, rfl⟩ := monitoring_of_read front
    exact ⟨length, {}⟩
  | objectiveFunction =>
    refine rewritable_of_withTlvs canonical short whole (fun front => ?_) found
    obtain ⟨length, body, rfl⟩ := objectiveFunction_of_read front
    exact ⟨length, {}⟩
  | globalConstraints =>
    refine rewritable_of_withTlvs canonical short whole (fun front => ?_) found
    obtain ⟨length, body, rfl⟩ := globalConstraints_of_read front
    exact ⟨length, {}⟩
  | srp =>
    refine rewritable_of_withTlvs canonical short whole (fun front => ?_) found
    obtain ⟨length, body, rfl⟩ := srp_of_read front
    exact ⟨length, {}⟩
  | lsp =>
    refine rewritable_of_withTlvs canonical short whole (fun front => ?_) found
    obtain ⟨length, body, small, rfl⟩ := lsp_of_read front
    exact ⟨length, { checked := fun _ => lspCheck.mpr small }⟩
  | associationIpv4 =>
    refine rewritable_of_withTlvs canonical short whole (fun front => ?_) found
    obtain ⟨make, read, rfl⟩ := wrapAssociation_ok.mp front
    obtain ⟨length, body, rfl⟩ := association_of_read
      (fun found => by rw [(ipv4_ok.mp found).length, Ipv4.length_octets]) read
    exact ⟨length, {}⟩
  | associationIpv6 =>
    refine rewritable_of_withTlvs canonical short whole (fun front => ?_) found
    obtain ⟨make, read, rfl⟩ := wrapAssociation_ok.mp front
    obtain ⟨length, body, rfl⟩ := association_of_read
      (fun found => by rw [(ipv6_ok.mp found).length, Ipv6.length_octets]) read
    exact ⟨length, {}⟩
  | explicitRoute | includeRoute | pathKey | secondaryExplicitRoute =>
    refine rewritable_of_readRoute canonical ?_ found
    exact fun _ => ⟨rfl, rfl, rfl, trivial, rfl, rfl⟩
  | reportedRoute | secondaryReportedRoute =>
    refine rewritable_of_scanRoute canonical ?_ found
    exact fun _ => ⟨rfl, rfl, rfl, trivial, rfl, rfl⟩
  | excludeRoute => exact rewritable_of_readExcludeRoute canonical (Scan.ofReader_ok.mp found).2
  | vendorInformation => exact rewritable_of_readVendor whole (Scan.ofReader_ok.mp found).2
  | svec =>
    obtain ⟨value, rfl, length⟩ := svec_of_read (Scan.ofReader_ok.mp found).2
    exact .whole rfl rfl rfl trivial rfl length
  | classType =>
    obtain ⟨number, rfl, le⟩ := classType_of_read (Scan.ofReader_ok.mp found).2
    refine .whole rfl rfl rfl ?_ rfl least
    -- All four octets were compared with the limit before the last of them was taken.
    have limit : beValue (slice.octets.take 4) ≤ ObjectBody.maxClassType.toNat := by
      by_contra large
      simp [ObjectValue.refusal?, large] at accepted
    exact Nat.le_trans le limit
  | unreachDestinationIpv4 =>
    obtain ⟨destinations, rfl, some, length⟩ :=
      destinations_of_read (by decide) least (Scan.ofReader_ok.mp found).2
    exact .whole rfl rfl rfl some rfl length
  | unreachDestinationIpv6 =>
    obtain ⟨destinations, rfl, some, length⟩ :=
      destinations_of_read (by decide) least (Scan.ofReader_ok.mp found).2
    exact .whole rfl rfl rfl some rfl length
  | requestedBandwidth | existingBandwidth | pccRequestIdIpv4 | pccRequestIdIpv6 | pceIdIpv4
  | pceIdIpv6 =>
    obtain ⟨_, _, rfl⟩ := readOne_ok.mp (Scan.ofReader_ok.mp found).2
    exact .whole rfl rfl rfl trivial rfl least
  | endPointsIpv4 =>
    obtain ⟨_, _, rfl⟩ := endPointsIpv4_of_read (Scan.ofReader_ok.mp found).2
    exact .whole rfl rfl rfl trivial rfl least
  | endPointsIpv6 =>
    obtain ⟨_, _, rfl⟩ := endPointsIpv6_of_read (Scan.ofReader_ok.mp found).2
    exact .whole rfl rfl rfl trivial rfl least
  | metric =>
    obtain ⟨_, rfl⟩ := metric_of_read (Scan.ofReader_ok.mp found).2
    exact .whole rfl rfl rfl trivial rfl least
  | loadBalancing =>
    obtain ⟨_, rfl⟩ := loadBalancing_of_read (Scan.ofReader_ok.mp found).2
    exact .whole rfl rfl rfl trivial rfl least
  | processingTime =>
    obtain ⟨_, rfl⟩ := processingTime_of_read (Scan.ofReader_ok.mp found).2
    exact .whole rfl rfl rfl trivial rfl least
  | overload =>
    obtain ⟨_, rfl⟩ := overload_of_read (Scan.ofReader_ok.mp found).2
    exact .whole rfl rfl rfl trivial rfl least

end ObjectBody
end RouteWire.Pcep
