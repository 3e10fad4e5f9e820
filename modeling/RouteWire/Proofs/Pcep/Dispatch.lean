import RouteWire.Proofs.Pcep.Accounting
/-!
Codes of what was read. A registry that is put together from extensions says of each code which kind it
is read as, a reader gives a value of that kind, and the value tells the code it is written with: the
three lists agree, so a value has the code that stood on the wire before it.

Main statement: `codes_agree`.
-/
namespace RouteWire.Pcep
variable {registry : Registry} {slice rest : Slice} {ignored : Ignored}

/-! ## Objects -/

theorem ObjectValue.codes_of_scan (canonical : registry.Canonical) {kind : ObjectKind}
    {value : ObjectValue} (short : slice.octets.length ≤ 65535) (whole : slice.octets.length % 4 = 0)
    (found : scan kind registry slice = (ignored, .ok (value, rest))) : value.codes = kind.codes := by
  rw [(records_scan kind).apply] at found
  dsimp only at found
  split at found
  · cases found
  next enough =>
  split at found
  · -- A refused body is kept under the codes of its kind.
    cases found
    rfl
  next accepted =>
  split at found
  · cases found
  next scanned =>
  cases found
  have least := Nat.le_of_not_lt enough
  have rewritable := ObjectBody.rewritable_of_scan canonical short whole least accepted scanned
  exact congrArg ObjectKind.codes rewritable.kind_eq

theorem WireObject.codes_of_reads (canonical : registry.Canonical) {wire : WireObject} {object : Object}
    (laid : Laid [wire]) (reads : wire.Reads registry object) : object.value.codes = wire.codes := by
  obtain ⟨fits, whole⟩ := List.forall_mem_singleton.mp laid
  cases reads with
  | @registered kind _ _ _ known found =>
    have short : wire.body.length ≤ 65535 := Nat.le_trans (Nat.le_add_left ..) fits
    exact (ObjectValue.codes_of_scan canonical short whole found).trans
      (canonical.objects wire.codes kind known)
  | unrecognizedType _ _ => rfl
  | unrecognizedClass _ => rfl

theorem Object.exists_wire {object : Object}
    (found : scan registry slice = (ignored, .ok (some object, rest))) :
    ∃ wire, WireObject.Laid [wire] ∧ slice.octets = wire.octets ++ rest.octets ∧
      wire.Reads registry object := by
  obtain ⟨frame, cut, answer⟩ := Scan.element_ok.mp found
  obtain ⟨wire, laid, parts, shown⟩ := WireObject.of_cut cut
  refine ⟨wire, List.forall_mem_singleton.mpr laid, parts, ?_⟩
  obtain ⟨-, answered⟩ := WireObject.ofFrame_shown shown answer
  split at answered
  · obtain ⟨_, same, reads⟩ := answered
    cases same
    exact reads
  · cases answered

/-! ## TLVs -/

theorem WireTlv.code_of_decodes (canonical : registry.Canonical) {wire : WireTlv} {tlv : Tlv}
    (decodes : wire.Decodes registry tlv) : tlv.code = wire.code := by
  obtain ⟨kind, known, found⟩ := decodes
  obtain ⟨_, inside⟩ := Reader.inside_ok.mp found
  rw [Tlv.code, (Tlv.tlv_of_read inside).1]
  exact canonical.tlvs wire.code kind known

theorem Tlv.exists_wire {tlv : Tlv} (found : scan registry slice = (ignored, .ok (some tlv, rest))) :
    ∃ wire, WireTlv.Laid [wire] ∧ slice.octets = wire.octets ++ rest.octets ∧
      wire.Decodes registry tlv := by
  obtain ⟨frame, cut, answer⟩ := Scan.element_ok.mp found
  obtain ⟨wire, fits, -, parts, shown⟩ := WireTlv.of_cut cut
  refine ⟨wire, ⟨List.forall_mem_singleton.mpr fits, List.forall_mem_nil _⟩, parts, ?_⟩
  obtain ⟨-, answered⟩ := WireTlv.ofFrame_shown shown answer
  split at answered
  · obtain ⟨_, same, decodes⟩ := answered
    cases same
    exact decodes
  · cases answered

/-! ## Subobjects -/

namespace WireSubobject
variable {wire : WireSubobject}

def code (wire : WireSubobject) : UInt8 := wire.header % 128

def flag (wire : WireSubobject) : Bool := wire.header.toNat.testBit 7

theorem ReadsEro.agrees (canonical : registry.Canonical) {subobject : EroSubobject}
    (reads : wire.ReadsEro registry subobject) :
    subobject.code = wire.code ∧ subobject.loose = wire.flag := by
  obtain ⟨loose, kind, known, found⟩ := reads
  obtain ⟨_, inside⟩ := Reader.inside_ok.mp found
  refine ⟨?_, loose⟩
  rw [EroSubobject.code, (Subobject.eroValue_of_read inside).1]
  exact canonical.ero wire.code kind known

theorem ReadsXro.agrees (canonical : registry.Canonical) {subobject : XroSubobject}
    (reads : wire.ReadsXro registry subobject) :
    subobject.code = wire.code ∧ subobject.mandatory = wire.flag := by
  obtain ⟨mandatory, kind, known, found⟩ := reads
  obtain ⟨_, inside⟩ := Reader.inside_ok.mp found
  refine ⟨?_, mandatory⟩
  rw [XroSubobject.code, (Subobject.xroValue_of_read inside).1]
  exact canonical.xro wire.code kind known

theorem ReadsRro.agrees (canonical : registry.Canonical) {subobject : RroSubobject}
    (reads : wire.ReadsRro registry subobject) : subobject.code = wire.header := by
  obtain ⟨kind, known, found⟩ := reads
  obtain ⟨_, inside⟩ := Reader.inside_ok.mp found
  rw [RroSubobject.code, (Subobject.rroValue_of_read inside).1]
  exact canonical.rro wire.header kind known

end WireSubobject

/-- What is read has the codes of the wire: an object its class and type, if its value is unknown, too, a
TLV its type, a hop of a route the type and the flag of its first octet, and a reported hop the type that
its first octet is. -/
theorem codes_agree (session later : Session) (assembled : session.registry.Assembled)
    (octets : List UInt8) (rest : Slice) :
    (∀ object, session.read Object.scan octets = (.ok (some object, rest), later) →
      ∃ wire, WireObject.Laid [wire] ∧ octets = wire.octets ++ rest.octets ∧
        wire.Reads session.registry object ∧ object.value.codes = wire.codes) ∧
    (∀ tlv, session.read Tlv.scan octets = (.ok (some tlv, rest), later) →
      ∃ wire, WireTlv.Laid [wire] ∧ octets = wire.octets ++ rest.octets ∧
        wire.Decodes session.registry tlv ∧ tlv.code = wire.code) ∧
    (∀ route, Subobject.readEro session.registry (.whole octets) = .ok (route, rest) →
      ∃ wire, Subobject.RouteAccount (WireSubobject.ReadsEro session.registry) octets route rest wire ∧
        List.Forall₂ (fun wire hop => hop.code = wire.code ∧ hop.loose = wire.flag) wire route) ∧
    (∀ route, Subobject.readXro session.registry (.whole octets) = .ok (route, rest) →
      ∃ wire, Subobject.RouteAccount (WireSubobject.ReadsXro session.registry) octets route rest wire ∧
        List.Forall₂ (fun wire hop => hop.code = wire.code ∧ hop.mandatory = wire.flag) wire route) ∧
    ∀ route, session.read Subobject.scanRro octets = (.ok (route, rest), later) →
      ∃ wire, Subobject.ReportedAccount session octets route rest later wire ∧
        List.Forall₂ (fun wire hop => hop.code = wire.header)
          (wire.filter (WireSubobject.isKnownRro session.registry)) route := by
  have canonical := assembled.canonical
  refine ⟨?_, ?_, ?_, ?_, ?_⟩
  · intro object found
    obtain ⟨_, scanned, -⟩ := Session.read_ok.mp found
    obtain ⟨wire, laid, parts, reads⟩ := Object.exists_wire scanned
    exact ⟨wire, laid, parts, reads, WireObject.codes_of_reads canonical laid reads⟩
  · intro tlv found
    obtain ⟨_, scanned, -⟩ := Session.read_ok.mp found
    obtain ⟨wire, laid, parts, decodes⟩ := Tlv.exists_wire scanned
    exact ⟨wire, laid, parts, decodes, WireTlv.code_of_decodes canonical decodes⟩
  · intro route found
    obtain ⟨wire, account⟩ := Subobject.exists_routeAccount WireSubobject.eroOfFrame_shown found
    exact ⟨wire, account, account.read.imp fun _ _ reads => reads.agrees canonical⟩
  · intro route found
    obtain ⟨wire, account⟩ := Subobject.exists_routeAccount WireSubobject.xroOfFrame_shown found
    exact ⟨wire, account, account.read.imp fun _ _ reads => reads.agrees canonical⟩
  · intro route found
    obtain ⟨wire, account⟩ := Subobject.exists_reportedAccount found
    exact ⟨wire, account, account.read.imp fun _ _ reads => reads.agrees canonical⟩

/-- An opening of a type that is not registered, which must be taken into account, and an octet. -/
def unknownOpening : List UInt8 := [1, 0x22, 0, 8, 7, 0, 0, 1, 9]

theorem codes_agree_unknown :
    let session := Session.start ((Registry.empty.registerVendor 9).enable .base)
    let network : Ipv4Network := ⟨.ofOctets [192, 0, 2, 1], 24⟩
    (∃ wire, WireObject.Laid [wire] ∧ unknownOpening = wire.octets ++ [9] ∧
      wire.Reads session.registry
        ⟨⟨true, false⟩, .unknown ⟨⟨1, 2⟩, .unrecognizedObjectType, [7, 0, 0, 1]⟩⟩ ∧
      ⟨1, 2⟩ = wire.codes) ∧
    (∃ wire, WireTlv.Laid [wire] ∧ [0, 4, 0, 2, 0, 9, 0, 0] = wire.octets ++ [] ∧
      wire.Decodes session.registry (.objectiveFunctionList [9]) ∧ 4 = wire.code) ∧
    (∃ wire, Subobject.RouteAccount (WireSubobject.ReadsEro session.registry) looseRoute
        [⟨true, .ipv4Prefix network⟩] ⟨8, []⟩ wire ∧
      List.Forall₂ (fun wire (hop : EroSubobject) => hop.code = wire.code ∧ hop.loose = wire.flag)
        wire [⟨true, .ipv4Prefix network⟩]) ∧
    (∃ wire, Subobject.RouteAccount (WireSubobject.ReadsXro session.registry) looseRoute
        [⟨true, .ipv4Prefix network .interface⟩] ⟨8, []⟩ wire ∧
      List.Forall₂ (fun wire (hop : XroSubobject) => hop.code = wire.code ∧ hop.mandatory = wire.flag)
        wire [⟨true, .ipv4Prefix network .interface⟩]) ∧
    ∃ wire, Subobject.ReportedAccount session clutteredRoute [.ipv4Prefix network ⟨true, true⟩]
        ⟨12, []⟩ (session.read Subobject.scanRro clutteredRoute).2 wire ∧
      List.Forall₂ (fun wire (hop : RroSubobject) => hop.code = wire.header)
        (wire.filter (WireSubobject.isKnownRro session.registry))
        [.ipv4Prefix network ⟨true, true⟩] := by
  intro session network
  have assembled : session.registry.Assembled := .base (.vendor 9 .empty)
  have object : (session.read Object.scan unknownOpening).1 =
      .ok (some ⟨⟨true, false⟩, .unknown ⟨⟨1, 2⟩, .unrecognizedObjectType, [7, 0, 0, 1]⟩⟩,
        ⟨8, [9]⟩) := by decide +kernel
  have tlv : (session.read Tlv.scan [0, 4, 0, 2, 0, 9, 0, 0]).1 =
      .ok (some (.objectiveFunctionList [9]), ⟨8, []⟩) := by decide +kernel
  have explicit : Subobject.readEro session.registry (.whole looseRoute) =
      .ok ([⟨true, .ipv4Prefix network⟩], ⟨8, []⟩) := by decide +kernel
  have excluded : Subobject.readXro session.registry (.whole looseRoute) =
      .ok ([⟨true, .ipv4Prefix network .interface⟩], ⟨8, []⟩) := by decide +kernel
  have reported : (session.read Subobject.scanRro clutteredRoute).1 =
      .ok ([.ipv4Prefix network ⟨true, true⟩], ⟨12, []⟩) := by decide +kernel
  refine ⟨?_, ?_, ?_, ?_, ?_⟩
  · exact (codes_agree session _ assembled ..).1 _ (Prod.ext object rfl)
  · exact (codes_agree session _ assembled ..).2.1 _ (Prod.ext tlv rfl)
  · exact (codes_agree session session assembled ..).2.2.1 _ explicit
  · exact (codes_agree session session assembled ..).2.2.2.1 _ excluded
  · exact (codes_agree session _ assembled ..).2.2.2.2 _ (Prod.ext reported rfl)

end RouteWire.Pcep
