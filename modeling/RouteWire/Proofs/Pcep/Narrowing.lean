import RouteWire.Proofs.Pcep.Accounting
/-!
Reading under a registry that knows less. Whatever a registry knows is read in the same way under one
that knows more, so of octets that the wider one reads, the narrower one reads its own part: it keeps the
values of the codes that it knows, and records the others.

Main statements: `Registry.Canonical.within_enable`, by which an extension only widens a registry, and
`narrower_reads_part`.
-/
namespace RouteWire.Pcep

/-! ## Registries -/

namespace Registry
variable {registry narrow wide wider : Registry}

/-- Each TLV and each reported hop that the one registry knows is known to the other as the same kind,
and both know the same enterprises. -/
structure Within (narrow wide : Registry) : Prop where
  tlvs : ∀ {code kind}, narrow.tlv? code = some kind → wide.tlv? code = some kind
  rro : ∀ {code kind}, narrow.rro? code = some kind → wide.rro? code = some kind
  vendors : ∀ enterprise, narrow.hasVendor enterprise = wide.hasVendor enterprise

namespace Within

theorem refl (registry : Registry) : registry.Within registry := ⟨id, id, fun _ => rfl⟩

theorem trans (first : narrow.Within wide) (second : wide.Within wider) : narrow.Within wider where
  tlvs known := second.tlvs (first.tlvs known)
  rro known := second.rro (first.rro known)
  vendors enterprise := (first.vendors enterprise).trans (second.vendors enterprise)

end Within

namespace Canonical

theorem within_registerTlv (canonical : registry.Canonical) (kind : TlvKind) :
    registry.Within (registry.registerTlv (CodePoint.code kind) kind) := by
  refine ⟨?_, id, fun _ => rfl⟩
  intro code old known
  rw [tlv?_registerTlv]
  by_cases same : code = CodePoint.code kind
  · -- A code that was known before was known as the kind that has it.
    have own : CodePoint.code old = code := canonical.tlvs code old known
    rw [if_pos same, CodePoint.code_injective (own.trans same)]
  · rw [if_neg same]
    exact known

theorem within_registerRro (canonical : registry.Canonical) (kind : RroKind) :
    registry.Within (registry.registerRro (CodePoint.code kind) kind) := by
  refine ⟨id, ?_, fun _ => rfl⟩
  intro code old known
  rw [rro?_registerRro]
  by_cases same : code = CodePoint.code kind
  · have own : CodePoint.code old = code := canonical.rro code old known
    rw [if_pos same, CodePoint.code_injective (own.trans same)]
  · rw [if_neg same]
    exact known

theorem within_foldl {κ : Type} {register : Registry → κ → Registry}
    (step : ∀ {registry}, Canonical registry → ∀ kind,
      Canonical (register registry kind) ∧ registry.Within (register registry kind))
    (canonical : registry.Canonical) (kinds : List κ) :
    Canonical (kinds.foldl register registry) ∧ registry.Within (kinds.foldl register registry) := by
  induction kinds generalizing registry with
  | nil => exact ⟨canonical, .refl registry⟩
  | cons kind kinds ih =>
    obtain ⟨next, within⟩ := step canonical kind
    obtain ⟨last, more⟩ := ih next
    exact ⟨last, within.trans more⟩

theorem within_enable (canonical : registry.Canonical) (extension : Extension) :
    registry.Within (registry.enable extension) := by
  obtain ⟨objects, first⟩ := canonical.within_foldl
    (fun before kind => ⟨before.registerObject kind, id, id, fun _ => rfl⟩) extension.objects
  obtain ⟨tlvs, second⟩ := objects.within_foldl
    (fun before kind => ⟨before.registerTlv kind, before.within_registerTlv kind⟩) extension.tlvs
  obtain ⟨ero, third⟩ := tlvs.within_foldl
    (fun before kind => ⟨before.registerEro kind, id, id, fun _ => rfl⟩) extension.ero
  obtain ⟨xro, fourth⟩ := ero.within_foldl
    (fun before kind => ⟨before.registerXro kind, id, id, fun _ => rfl⟩) extension.xro
  obtain ⟨-, fifth⟩ := xro.within_foldl
    (fun before kind => ⟨before.registerRro kind, before.within_registerRro kind⟩) extension.rro
  exact (((first.trans second).trans third).trans fourth).trans fifth

end Canonical
end Registry

/-! ## Elements -/

section Elements
variable {η ε ω α : Type} {framing : Framing η ε} {shows : Frame η → ω → Prop}

/-- The values of those elements that pass a test; each value belongs to the element in its place. -/
def valuesOf (passes : ω → Bool) (elements : List ω) (values : List α) : List α :=
  ((elements.zip values).filter fun entry => passes entry.1).map Prod.snd

theorem valuesOf_cons (passes : ω → Bool) (element : ω) (elements : List ω) (value : α)
    (values : List α) :
    valuesOf passes (element :: elements) (value :: values) =
      (if passes element then some value else none).toList ++ valuesOf passes elements values := by
  rw [valuesOf, List.zip_cons_cons, List.filter_cons]
  cases passes element <;> rfl

theorem Scan.Kept.narrowed {narrow wide : Frame η → Ignored × Except (Failure ε) (Option α)}
    {keeps keepsMore : ω → Bool} {record : ω → Ignored} {frames : List (Frame η)} {wire : List ω}
    {ignored : Ignored} {values : List α} (kept : Kept wide frames ignored values)
    (shown : List.Forall₂ shows frames wire)
    (each : ∀ {frame element ignored value?}, shows frame element → wide frame = (ignored, .ok value?) →
      value?.isSome = keepsMore element ∧
        narrow frame = (record element, .ok (if keeps element then value? else none))) :
    Kept narrow frames (.concat (wire.map record)) (valuesOf keeps (wire.filter keepsMore) values) := by
  induction shown generalizing ignored values with
  | nil =>
    cases kept
    exact .nil
  | @cons frame element frames wire first _ ih =>
    cases kept with
    | @cons _ _ _ _ value? _ answer others =>
      obtain ⟨known, narrower⟩ := each first answer
      have more := Kept.cons narrower (ih others)
      rw [List.filter_cons, ← known]
      cases value? with
      | none =>
        -- The wider one passes it over, so it is none of the elements that have a value.
        rw [ite_self] at more
        exact more
      | some value =>
        rw [if_pos Option.isSome_some, Option.toList_some, List.singleton_append, valuesOf_cons]
        exact more

theorem Scan.elements_narrowed {read : FrameReader η ε (Option α)} [read.Logs]
    {narrow wide : Registry} {keeps keepsMore : ω → Bool} {record : ω → Ignored} {slice rest : Slice}
    {frames : List (Frame η)} {wire : List ω} {ignored : Ignored} {values : List α}
    (tiles : framing.Tiles slice frames) (shown : List.Forall₂ shows frames wire)
    (each : ∀ {frame element ignored value?}, shows frame element →
      read wide frame = (ignored, .ok value?) → value?.isSome = keepsMore element ∧
        read narrow frame = (record element, .ok (if keeps element then value? else none)))
    (found : elements framing read wide slice = (ignored, .ok (values, rest))) :
    elements framing read narrow slice =
      (.concat (wire.map record), .ok (valuesOf keeps (wire.filter keepsMore) values, rest)) := by
  obtain ⟨⟨others, otherTiles, kept⟩, finish⟩ := elements_ok.mp found
  rw [otherTiles.unique tiles] at kept
  exact elements_ok.mpr ⟨⟨frames, tiles, kept.narrowed shown each⟩, finish⟩

theorem Scan.asKnown_narrowed {narrow? wide? : Option (Reader ε α)} {note ignored : Ignored}
    {value : Slice} {value? : Option α}
    (within : ∀ reader, narrow? = some reader → wide? = some reader)
    (answer : asKnown wide? note value = (ignored, .ok value?)) :
    value?.isSome = wide?.isSome ∧ asKnown narrow? note value =
      (if narrow?.isSome then ∅ else note, .ok (if narrow?.isSome then value? else none)) := by
  obtain ⟨rfl, -, rfl⟩ | ⟨reader, found, rfl, read, -, rfl⟩ := asKnown_ok.mp answer
  · cases narrow? with
    | none => exact ⟨rfl, rfl⟩
    | some reader => cases within reader rfl
  · refine ⟨rfl, ?_⟩
    cases narrow? with
    | none => rfl
    | some other =>
      cases within other rfl
      exact asKnown_ok.mpr (.inr ⟨reader, found, rfl, read, rfl, rfl⟩)

theorem unknown_of_narrower {narrow wide : ω → Bool} (within : ∀ element, narrow element → wide element)
    (wire : List ω) :
    wire.filter (fun element => !narrow element) =
      wire.filter fun element => !wide element || (wide element && !narrow element) := by
  apply List.filter_congr
  intro element _
  cases known : narrow element with
  | true => simp [within element known]
  | false => simp

theorem Session.wider_fails {scan : Scan ε α} {narrow wide : Session} {octets : List UInt8}
    (reads : ∀ value rest later, wide.read scan octets = (.ok (value, rest), later) →
      ∃ answer, (narrow.read scan octets).1 = .ok answer)
    (fails : ∃ failure, (narrow.read scan octets).1 = .error failure) :
    ∃ failure, (wide.read scan octets).1 = .error failure := by
  obtain ⟨failure, narrower⟩ := fails
  cases answer : wide.read scan octets with
  | mk result later =>
    cases result with
    | error other => exact ⟨other, rfl⟩
    | ok found =>
      obtain ⟨_, reads⟩ := reads found.1 found.2 later answer
      rw [narrower] at reads
      cases reads

end Elements

/-! ## TLVs -/

namespace Tlv
variable {narrow wide : Registry}

/-- What a value is read as depends on nothing in the registry but its enterprises. -/
theorem readValue_congr (same : ∀ enterprise, narrow.hasVendor enterprise = wide.hasVendor enterprise)
    (kind : TlvKind) : readValue narrow kind = readValue wide kind := by
  have information : readVendorInformation narrow = readVendorInformation wide := by
    simp only [readVendorInformation, same]
  cases kind with
  | vendorInformation => simp only [readValue, information]
  | _ => rfl

theorem ofFrame_narrowed (within : narrow.Within wide) {frame : Frame UInt16} {wire : WireTlv}
    {ignored : Ignored} {tlv? : Option Tlv} (shown : WireTlv.ShownBy frame wire)
    (answer : ofFrame wide frame = (ignored, .ok tlv?)) :
    tlv?.isSome = wire.isKnown wide ∧ ofFrame narrow frame =
      (if wire.isKnown narrow then ∅ else .of (.unknownTlv wire.code),
        .ok (if wire.isKnown narrow then tlv? else none)) := by
  rw [ofFrame_eq, shown.1] at answer ⊢
  have same : ∀ reader, (narrow.tlv? wire.code).map (readValue narrow) = some reader →
      (wide.tlv? wire.code).map (readValue wide) = some reader := by
    intro reader found
    obtain ⟨kind, known, rfl⟩ := Option.map_eq_some_iff.mp found
    rw [within.tlvs known, readValue_congr within.vendors]
    rfl
  have narrowed := Scan.asKnown_narrowed same answer
  rw [Option.isSome_map, Option.isSome_map] at narrowed
  exact narrowed

end Tlv

theorem WireTlv.isKnown_of_within {narrow wide : Registry} (within : narrow.Within wide) (tlv : WireTlv)
    (known : tlv.isKnown narrow) : tlv.isKnown wide := by
  obtain ⟨kind, found⟩ := Option.isSome_iff_exists.mp known
  rw [isKnown, within.tlvs found]
  rfl

structure Tlv.NarrowedAccount (narrow wide : Session) (octets : List UInt8) (tlvs : List Tlv)
    (rest : Slice) (later : Session) (wire : List WireTlv) : Prop
    extends Tlv.Account wide octets tlvs rest later wire where
  /-- Of what was read, the values of the codes that the narrower one knows, up to the same end. -/
  kept : (narrow.read Tlv.scanAll octets).1 =
    .ok (valuesOf (WireTlv.isKnown narrow.registry)
      (wire.filter (WireTlv.isKnown wide.registry)) tlvs, rest)
  /-- The codes that neither knows and those that only the wider one knows, in the order of the wire. -/
  noted : (narrow.read Tlv.scanAll octets).2 = { narrow with ignored := narrow.ignored ++
    { unknownTlvs := ((wire.filter fun tlv => !tlv.isKnown wide.registry ||
        (tlv.isKnown wide.registry && !tlv.isKnown narrow.registry)).map WireTlv.code).toArray } }

theorem Tlv.exists_narrowedAccount {narrow wide later : Session} {octets : List UInt8}
    {tlvs : List Tlv} {rest : Slice} (within : narrow.registry.Within wide.registry)
    (found : wide.read scanAll octets = (.ok (tlvs, rest), later)) :
    ∃ wire, NarrowedAccount narrow wide octets tlvs rest later wire := by
  obtain ⟨wire, account⟩ := exists_account found
  obtain ⟨frames, tiles, shown⟩ :=
    Framing.tiles_of_wire WireTlv.cut_octets account.laid.fits account.laid.filled 0
  rw [← account.parts] at tiles
  obtain ⟨_, scanned, -⟩ := Session.read_ok.mp found
  have narrowed := Scan.elements_narrowed tiles shown (ofFrame_narrowed within) scanned
  have answer : narrow.read scanAll octets = (.ok (_, rest), _) :=
    Session.read_ok.mpr ⟨_, narrowed, rfl⟩
  refine ⟨wire, account, congrArg Prod.fst answer, (congrArg Prod.snd answer).trans ?_⟩
  rw [← unknown_of_narrower (WireTlv.isKnown_of_within within),
    ← Ignored.concat_skipped (fun codes => { unknownTlvs := codes.toArray }) rfl fun _ _ => by
      simp [Ignored.append_def, Ignored.append]]
  rfl

/-! ## Reported hops -/

theorem Subobject.rroOfFrame_narrowed {narrow wide : Registry} (within : narrow.Within wide)
    {frame : Frame UInt8} {wire : WireSubobject} {ignored : Ignored}
    {subobject? : Option RroSubobject} (shown : WireSubobject.ShownBy frame wire)
    (answer : rroOfFrame wide frame = (ignored, .ok subobject?)) :
    subobject?.isSome = wire.isKnownRro wide ∧ rroOfFrame narrow frame =
      (if wire.isKnownRro narrow then ∅ else .of (.unknownRroSubobject wire.header),
        .ok (if wire.isKnownRro narrow then subobject? else none)) := by
  rw [rroOfFrame_eq, shown.1] at answer ⊢
  have same : ∀ reader, (narrow.rro? wire.header).map readRroValue = some reader →
      (wide.rro? wire.header).map readRroValue = some reader := by
    intro reader found
    obtain ⟨kind, known, rfl⟩ := Option.map_eq_some_iff.mp found
    rw [within.rro known]
    rfl
  have narrowed := Scan.asKnown_narrowed same answer
  rw [Option.isSome_map, Option.isSome_map] at narrowed
  exact narrowed

theorem WireSubobject.isKnownRro_of_within {narrow wide : Registry} (within : narrow.Within wide)
    (subobject : WireSubobject) (known : subobject.isKnownRro narrow) : subobject.isKnownRro wide := by
  obtain ⟨kind, found⟩ := Option.isSome_iff_exists.mp known
  rw [isKnownRro, within.rro found]
  rfl

structure Subobject.NarrowedAccount (narrow wide : Session) (octets : List UInt8)
    (route : List RroSubobject) (rest : Slice) (later : Session) (wire : List WireSubobject) : Prop
    extends Subobject.ReportedAccount wide octets route rest later wire where
  kept : (narrow.read scanRro octets).1 =
    .ok (valuesOf (WireSubobject.isKnownRro narrow.registry)
      (wire.filter (WireSubobject.isKnownRro wide.registry)) route, rest)
  noted : (narrow.read scanRro octets).2 = { narrow with ignored := narrow.ignored ++
    { unknownRroSubobjects := ((wire.filter fun subobject => !subobject.isKnownRro wide.registry ||
        (subobject.isKnownRro wide.registry &&
          !subobject.isKnownRro narrow.registry)).map WireSubobject.header).toArray } }

theorem Subobject.exists_narrowedAccount {narrow wide later : Session} {octets : List UInt8}
    {route : List RroSubobject} {rest : Slice} (within : narrow.registry.Within wide.registry)
    (found : wide.read scanRro octets = (.ok (route, rest), later)) :
    ∃ wire, NarrowedAccount narrow wide octets route rest later wire := by
  obtain ⟨wire, account⟩ := exists_reportedAccount found
  obtain ⟨frames, tiles, shown⟩ :=
    Framing.tiles_of_whole WireSubobject.cut_octets account.laid 0
  rw [← account.parts] at tiles
  obtain ⟨_, scanned, -⟩ := Session.read_ok.mp found
  have narrowed := Scan.elements_narrowed tiles shown (rroOfFrame_narrowed within) scanned
  have answer : narrow.read scanRro octets = (.ok (_, rest), _) :=
    Session.read_ok.mpr ⟨_, narrowed, rfl⟩
  refine ⟨wire, account, congrArg Prod.fst answer, (congrArg Prod.snd answer).trans ?_⟩
  rw [← unknown_of_narrower (WireSubobject.isKnownRro_of_within within),
    ← Ignored.concat_skipped (fun codes => { unknownRroSubobjects := codes.toArray }) rfl
      fun _ _ => by simp [Ignored.append_def, Ignored.append]]
  rfl

/-! ## The statement -/

/-- Knowing more changes nothing about what was known: of octets that a wider registry reads, a narrower
one keeps the values of the codes that it knows, in their order and up to the same end, and records what
the wider one records together with the codes that only that one knows, in the order of the wire. So
octets that the narrower one does not read, the wider one does not read either. -/
theorem narrower_reads_part (narrow wide : Session) (within : narrow.registry.Within wide.registry)
    (octets : List UInt8) :
    (∀ tlvs rest later, wide.read Tlv.scanAll octets = (.ok (tlvs, rest), later) →
      ∃ wire, Tlv.NarrowedAccount narrow wide octets tlvs rest later wire) ∧
    ((∃ failure, (narrow.read Tlv.scanAll octets).1 = .error failure) →
      ∃ failure, (wide.read Tlv.scanAll octets).1 = .error failure) ∧
    (∀ route rest later, wide.read Subobject.scanRro octets = (.ok (route, rest), later) →
      ∃ wire, Subobject.NarrowedAccount narrow wide octets route rest later wire) ∧
    ((∃ failure, (narrow.read Subobject.scanRro octets).1 = .error failure) →
      ∃ failure, (wide.read Subobject.scanRro octets).1 = .error failure) := by
  refine ⟨?_, ?_, ?_, ?_⟩
  · intro tlvs rest later found
    exact Tlv.exists_narrowedAccount within found
  · apply Session.wider_fails
    intro tlvs rest later found
    obtain ⟨_, account⟩ := Tlv.exists_narrowedAccount within found
    exact ⟨_, account.kept⟩
  · intro route rest later found
    exact Subobject.exists_narrowedAccount within found
  · apply Session.wider_fails
    intro route rest later found
    obtain ⟨_, account⟩ := Subobject.exists_narrowedAccount within found
    exact ⟨_, account.kept⟩

/-- A TLV that no extension knows, one that only a stateful speaker knows, and one that all know. -/
def mixedTlvs : List UInt8 :=
  [39, 15, 0, 1, 7, 0, 0, 0, 0, 17, 0, 1, 65, 0, 0, 0, 0, 4, 0, 2, 0, 9]

def mixedRoute : List UInt8 := [36, 8, 0, 8, 0, 0, 16, 0, 99, 4, 0, 0, 1, 8, 192, 0, 2, 1, 24, 3]

theorem narrower_reads_part_mixed :
    let narrow := Session.start (Registry.empty.enable .base)
    let wide := Session.start Registry.full
    let network : Ipv4Network := ⟨.ofOctets [192, 0, 2, 1], 24⟩
    let segment : Segment := ⟨.absent, false, false, some 4096, none⟩
    narrow.registry.Within wide.registry ∧
    (∃ wire, Tlv.NarrowedAccount narrow wide mixedTlvs [.symbolicPathName [65], .objectiveFunctionList [9]]
      ⟨22, []⟩ (wide.read Tlv.scanAll mixedTlvs).2 wire) ∧
    (∃ failure, (wide.read Tlv.scanAll [0, 4, 0, 1, 7]).1 = .error failure) ∧
    (∃ wire, Subobject.NarrowedAccount narrow wide mixedRoute
      [.segmentRouting segment, .ipv4Prefix network ⟨true, true⟩] ⟨20, []⟩
        (wide.read Subobject.scanRro mixedRoute).2 wire) ∧
    ∃ failure, (wide.read Subobject.scanRro [1, 2]).1 = .error failure := by
  intro narrow wide network segment
  have base : Registry.Canonical (Registry.empty.enable .base) :=
    (Registry.Assembled.base .empty).canonical
  have stateful : Registry.Canonical ((Registry.empty.enable .base).enable .stateful) :=
    base.enable .stateful
  have within : narrow.registry.Within wide.registry :=
    (base.within_enable .stateful).trans (stateful.within_enable .segmentRouting)
  have tlvs : (wide.read Tlv.scanAll mixedTlvs).1 =
      .ok ([.symbolicPathName [65], .objectiveFunctionList [9]], ⟨22, []⟩) := by decide +kernel
  have unaligned : (narrow.read Tlv.scanAll [0, 4, 0, 1, 7]).1 =
      .error ⟨.unalignedValueLength ⟨4, 2, 1⟩, 4, 1⟩ := by decide +kernel
  have route : (wide.read Subobject.scanRro mixedRoute).1 =
      .ok ([.segmentRouting segment, .ipv4Prefix network ⟨true, true⟩], ⟨20, []⟩) := by decide +kernel
  have truncated : (narrow.read Subobject.scanRro [1, 2]).1 =
      .error ⟨.invalidValueLength ⟨1, 6, 0⟩, 2, 0⟩ := by decide +kernel
  refine ⟨within, ?_, ?_, ?_, ?_⟩
  · exact (narrower_reads_part narrow wide within mixedTlvs).1 _ _ _ (Prod.ext tlvs rfl)
  · exact (narrower_reads_part narrow wide within _).2.1 ⟨_, unaligned⟩
  · exact (narrower_reads_part narrow wide within mixedRoute).2.2.1 _ _ _ (Prod.ext route rfl)
  · exact (narrower_reads_part narrow wide within _).2.2.2 ⟨_, truncated⟩

end RouteWire.Pcep
