import RouteWire.Proofs.Pcep.Accounting
/-!
Objects that were kept as they came, and their echo. There are four reasons to keep an object: its type or
its class is not registered though it has to be taken into account, it opens a session of another
version, or its class type is too large. In all of them the body is kept from its first octet on,
whatever it holds, and the header is read but for two bits.

Main statement: `unknown_echoed`.
-/
namespace RouteWire.Pcep

/-- The octet with the type of an object and its flags, put together from what is read of it, has lost the
two bits in between. -/
theorem ObjectFlags.octet_of_parts (octet : UInt8) :
    UInt8.ofNat ((octet / 16).toNat * 16 + (ofOctet octet).value) = octet &&& 0xF3 := by
  have every : ∀ number : Fin 256, UInt8.ofNat ((UInt8.ofFin number / 16).toNat * 16 +
      (ofOctet (UInt8.ofFin number)).value) = UInt8.ofFin number &&& 0xF3 := by
    decide +kernel
  exact every octet.toFin

theorem ObjectValue.scan_unknown {registry : Registry} {kind : ObjectKind} {slice rest : Slice}
    {ignored : Ignored} {body : UnknownBody}
    (found : scan kind registry slice = (ignored, .ok (.unknown body, rest))) :
    kind.leastLength ≤ slice.octets.length ∧
      ∃ error taken, refusal? kind slice.octets = some (error, taken) ∧
        body = ⟨kind.codes, error, slice.octets⟩ := by
  rw [(records_scan kind).apply] at found
  dsimp only at found
  split at found
  · cases found
  · next enough =>
    split at found
    · next error taken refused =>
      cases found
      exact ⟨Nat.le_of_not_lt enough, error, taken, refused, rfl⟩
    · split at found <;> cases found

namespace WireObject
variable {registry : Registry}

/-- The octets of an object without the two bits between its type and its flags, which are reserved. -/
def echo (wire : WireObject) : List UInt8 := wire.octets.modify 1 (· &&& 0xF3)

/-- Why an object is kept as it came, and the error that says so. -/
inductive KeptFor (registry : Registry) (wire : WireObject) : DocumentedError → Prop
  | unrecognizedType {type : UInt8} {kind : ObjectKind} (required : wire.flags.processingRule = true)
      (absent : registry.object? wire.codes = none)
      (other : registry.object? ⟨wire.objectClass, type⟩ = some kind) :
      KeptFor registry wire .unrecognizedObjectType
  | unrecognizedClass (required : wire.flags.processingRule = true)
      (absent : ∀ type, registry.object? ⟨wire.objectClass, type⟩ = none) :
      KeptFor registry wire .unrecognizedObjectClass
  | otherVersion {first : UInt8} {others : List UInt8}
      (known : registry.object? wire.codes = some .opening) (body : wire.body = first :: others)
      (other : first / 32 ≠ protocolVersion) : KeptFor registry wire .versionNotSupported
  | largeClassType (known : registry.object? wire.codes = some .classType)
      (large : ObjectBody.maxClassType.toNat < beValue (wire.body.take 4)) :
      KeptFor registry wire .invalidClassType

theorem keptFor_of_refusal {wire : WireObject} {kind : ObjectKind} {error : DocumentedError} {taken : Nat}
    (known : registry.object? wire.codes = some kind) (enough : kind.leastLength ≤ wire.body.length)
    (refused : ObjectValue.refusal? kind wire.body = some (error, taken)) :
    wire.KeptFor registry error := by
  rw [ObjectValue.refusal?.eq_def] at refused
  split at refused
  · obtain ⟨first, others, body⟩ := List.exists_cons_of_length_pos (Nat.lt_of_lt_of_le (by decide) enough)
    have front : beValue (wire.body.take 1) = first.toNat := by
      rw [body]
      exact Nat.zero_add _
    split at refused
    · cases refused
    · next other =>
      cases refused
      refine .otherVersion known body fun same => other ?_
      rw [front, ← same, UInt8.toNat_div]
      rfl
  · split at refused
    · cases refused
    · next large =>
      cases refused
      exact .largeClassType known (Nat.lt_of_not_le large)
  · cases refused

theorem kept_of_reads (canonical : registry.Canonical) {wire : WireObject} {flags : ObjectFlags}
    {body : UnknownBody} (kept : wire.isDropped registry = false)
    (reads : wire.Reads registry ⟨flags, .unknown body⟩) :
    flags = wire.flags ∧ body.codes = wire.codes ∧ body.octets = wire.body ∧
      wire.KeptFor registry body.error := by
  rw [isDropped] at kept
  cases reads with
  | @registered kind _ _ _ known found =>
    obtain ⟨enough, error, taken, refused, rfl⟩ := ObjectValue.scan_unknown found
    exact ⟨rfl, canonical.objects _ _ known, rfl, keptFor_of_refusal known enough refused⟩
  | unrecognizedType absent other =>
    have required : wire.flags.processingRule = true := by simpa [absent] using kept
    exact ⟨rfl, rfl, rfl, .unrecognizedType required absent other⟩
  | unrecognizedClass absent =>
    have required : wire.flags.processingRule = true := by simpa [codes, absent] using kept
    exact ⟨rfl, rfl, rfl, .unrecognizedClass required absent⟩

end WireObject

namespace Object
variable {registry : Registry} {flags : ObjectFlags} {body : UnknownBody} {octets : List UInt8}

theorem octets_script_unknown (whole : body.octets.length % 4 = 0)
    (written : (script registry ⟨flags, .unknown body⟩).toExcept = .ok octets) :
    octets = header ⟨flags, .unknown body⟩ (4 + body.octets.length) ++ body.octets := by
  obtain ⟨-, -, -, contents, value, rfl⟩ := script_ok.mp written
  have parts := @octets_of_mod registry contents ⟨flags, .unknown body⟩ whole value
  rw [parts, Script.emit_ok.mp value]

theorem header_of_wire (wire : WireObject) (error : DocumentedError) :
    header ⟨wire.flags, .unknown ⟨wire.codes, error, wire.body⟩⟩ (4 + wire.body.length) ++ wire.body =
      wire.echo := by
  have octet : UInt8.ofNat (wire.codes.objectType.toNat * 16 + wire.flags.value) =
      wire.typeAndFlags &&& 0xF3 := ObjectFlags.octet_of_parts wire.typeAndFlags
  dsimp only [header, ObjectValue.codes]
  rw [octet]
  rfl

theorem echo_of_rewritable (canonical : registry.Canonical) {wire : WireObject} {error : DocumentedError}
    {limit : Nat} (rewritable :
      Rewritable registry limit ⟨wire.flags, .unknown ⟨wire.codes, error, wire.body⟩⟩) :
    (script registry ⟨wire.flags, .unknown ⟨wire.codes, error, wire.body⟩⟩).run none = (wire.echo, none) ∧
      scan registry (.whole wire.echo) =
        (∅, .ok (some ⟨wire.flags, .unknown ⟨wire.codes, error, wire.body⟩⟩, ⟨wire.echo.length, []⟩)) := by
  have writes := rewritable.writes trivial
  have runs := Script.toExcept_of_failure writes
  have echo := (octets_script_unknown rewritable.readable.1 runs).trans (header_of_wire wire error)
  obtain ⟨frame, cut, answer⟩ := cutsOff_script canonical rewritable.readable writes 0 []
  rw [rewritable.enabled_eq] at answer
  rw [List.append_nil, Nat.zero_add, echo] at cut
  rw [echo] at runs
  exact ⟨Script.run_none_iff.mpr runs, Scan.element_ok.mpr ⟨frame, cut, answer⟩⟩

/-- Whatever an object is kept for, it is written in the octets it was read from, without the reserved
bits, and is read from them again. -/
theorem unknown_echoed {session later : Session} {rest : Slice}
    (assembled : session.registry.Assembled)
    (found : session.read scan octets = (.ok (some ⟨flags, .unknown body⟩, rest), later)) :
    ∃ wire : WireObject, Reader.Behind (.whole octets) wire.octets rest ∧
      wire.KeptFor session.registry body.error ∧ later = session ∧
      (script session.registry ⟨flags, .unknown body⟩).run none = (wire.echo, none) ∧
      session.read scan wire.echo =
        (.ok (some ⟨flags, .unknown body⟩, ⟨wire.echo.length, []⟩), session) := by
  have canonical := assembled.canonical
  obtain ⟨ignored, scanned, rfl⟩ := Session.read_ok.mp found
  obtain ⟨frame, cut, answer⟩ := Scan.element_ok.mp scanned
  obtain ⟨wire, fits, parts, shown⟩ := WireObject.of_cut cut
  have behind := Framing.behind_of_cut cut parts (WireObject.cut_octets _ fits)
  have rewritable := rewritable_of_frame canonical cut answer
  obtain ⟨-, given⟩ := WireObject.ofFrame_shown shown answer
  cases dropped : wire.isDropped session.registry with
  | true =>
    rw [dropped] at given
    cases given
  | false =>
    rw [dropped] at given
    obtain ⟨_, ⟨⟩, reads⟩ := given
    obtain ⟨rfl, codes, contents, keptFor⟩ := WireObject.kept_of_reads canonical dropped reads
    obtain ⟨_, error, _⟩ := body
    dsimp only at codes contents
    subst codes contents
    -- The frame at hand shows the same body as the one that is read again, so it passed over nothing.
    have nothing : ignored = ∅ := by
      obtain ⟨start, header, offset, value⟩ := frame
      obtain ⟨rfl, rfl⟩ := shown
      exact congrArg Prod.fst (answer.symm.trans (rewritable.readable.2 start offset))
    obtain ⟨written, again⟩ := echo_of_rewritable canonical rewritable
    refine ⟨wire, behind, keptFor, ?_, written, Session.read_of_scan again⟩
    rw [nothing, Ignored.append_empty]

/-- An object of a class that is not known, and a class type that is too large with octets behind it; the
reserved bits of both are set. -/
theorem unknown_echoed_reserved :
    let session := Session.start .full
    let other : Object := ⟨⟨true, false⟩,
      .unknown ⟨⟨200, 1⟩, .unrecognizedObjectClass, [222, 173, 190, 239]⟩⟩
    let large : Object := ⟨⟨false, true⟩, .unknown ⟨⟨22, 1⟩, .invalidClassType, [0, 0, 0, 8, 1, 2, 3, 4]⟩⟩
    (session.read scan [200, 30, 0, 8, 222, 173, 190, 239, 9]).1 = .ok (some other, ⟨8, [9]⟩) ∧
      (other.script .full).run none = ([200, 18, 0, 8, 222, 173, 190, 239], none) ∧
      session.read scan [200, 18, 0, 8, 222, 173, 190, 239] = (.ok (some other, ⟨8, []⟩), session) ∧
    (session.read scan [22, 29, 0, 12, 0, 0, 0, 8, 1, 2, 3, 4]).1 = .ok (some large, ⟨12, []⟩) ∧
      (large.script .full).run none = ([22, 17, 0, 12, 0, 0, 0, 8, 1, 2, 3, 4], none) ∧
      session.read scan [22, 17, 0, 12, 0, 0, 0, 8, 1, 2, 3, 4] =
        (.ok (some large, ⟨12, []⟩), session) := by
  intro session other large
  have assembled : session.registry.Assembled := Registry.assembled_full
  have otherRead : (session.read scan [200, 30, 0, 8, 222, 173, 190, 239, 9]).1 =
      .ok (some other, ⟨8, [9]⟩) := by decide +kernel
  have largeRead : (session.read scan [22, 29, 0, 12, 0, 0, 0, 8, 1, 2, 3, 4]).1 =
      .ok (some large, ⟨12, []⟩) := by decide +kernel
  obtain ⟨wire, ⟨whole, -⟩, -, -, written, again⟩ :=
    unknown_echoed assembled (Prod.ext otherRead rfl)
  have octets : [200, 30, 0, 8, 222, 173, 190, 239] = wire.octets := List.append_cancel_right whole
  obtain ⟨wireLarge, ⟨wholeLarge, -⟩, -, -, writtenLarge, againLarge⟩ :=
    unknown_echoed assembled (Prod.ext largeRead rfl)
  have octetsLarge : [22, 29, 0, 12, 0, 0, 0, 8, 1, 2, 3, 4] = wireLarge.octets :=
    List.append_cancel_right wholeLarge
  rw [WireObject.echo, ← octets] at written again
  rw [WireObject.echo, ← octetsLarge] at writtenLarge againLarge
  exact ⟨otherRead, written, again, largeRead, writtenLarge, againLarge⟩

end Object
end RouteWire.Pcep
