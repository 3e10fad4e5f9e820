import RouteWire.Proofs.Isolation
import RouteWire.Proofs.Pcep.Relocation
/-!
Where failures are. The place of a failure is always within the octets that were read, and the place of
one that arose in the contents of a message, an object or a TLV is within these contents, as its header
delimits them.

Main statements: `Message.failure_in_contents`, `Object.failure_in_contents`, `Tlv.failure_in_contents`
and `failures_located`.
-/
namespace RouteWire
namespace Pcep
open Framing Reader
open Pcep.Stream (declaredLength?)
variable {registry : Registry} {slice rest : Slice} {octets : List UInt8} {length : Nat}

/-! ## TLVs -/

namespace Tlv
variable {frame : Frame UInt16} {failure : Failure TlvReadError}

theorem within_of_ofFrame (failed : (ofFrame registry frame).2 = .error failure) :
    failure.Within frame.value := by
  rw [records_ofFrame.apply] at failed
  split at failed
  · cases failed
  · split at failed
    · next inside =>
      cases failed
      exact within_of_inside inside
    · cases failed

theorem confinedRead_ofFrame (registry : Registry) :
    ConfinedRead fun frame => (ofFrame registry frame).2 :=
  confinedRead_of_value fun _ _ => within_of_ofFrame

instance : scanAll.Confined := Scan.confined_elements confined_framing confinedRead_ofFrame

theorem value_of_cut (cut : framing.cut slice = .ok (frame, rest)) :
    ∃ length, declaredLength? slice.octets = some length ∧ frame.value.offset = slice.offset + 4 ∧
      frame.value.stop = slice.offset + (4 + length) := by
  simp only [framing] at cut
  split at cut
  · cases cut
  · next header behind first =>
    split at cut
    · cases cut
    · next value after second =>
      cases cut
      obtain ⟨whole, four, -, place⟩ := Slice.octets_of_split? first
      obtain ⟨-, size, start, -⟩ := Slice.octets_of_split? second
      have codeLength : (header.octets.take 2).length = 2 := by rw [List.length_take, four]; rfl
      have sizeLength : (header.octets.drop 2).length = 2 := by rw [List.length_drop, four]
      obtain ⟨a, b, code⟩ := List.length_eq_two.mp codeLength
      obtain ⟨high, low, spelled⟩ := List.length_eq_two.mp sizeLength
      rw [spelled] at size
      refine ⟨beValue [high, low], ?_, start.trans place, ?_⟩
      · rw [whole, ← List.take_append_drop 2 header.octets, code, spelled]
        rfl
      · rw [Slice.stop, size, start, place, Nat.add_assoc]

theorem cut_of_fits (declared : declaredLength? octets = some length) (fits : 4 + length ≤ octets.length) :
    ∃ frame rest, framing.cut (.whole octets) = .ok (frame, rest) := by
  match octets, declared with
  | first :: second :: high :: low :: contents, declared =>
    cases declared
    have enough : (contents.take (beValue [high, low])).length = beValue [high, low] := by
      rw [List.length_cons, List.length_cons, List.length_cons, List.length_cons] at fits
      exact List.length_take_of_le (by omega)
    have four : Slice.split? (.whole (first :: second :: high :: low :: contents)) 4 =
        some (⟨0, [first, second, high, low]⟩, ⟨4, contents⟩) := rfl
    have value : Slice.split? ⟨4, contents⟩ (beValue [high, low]) =
        some (⟨4, contents.take (beValue [high, low])⟩,
          ⟨4 + beValue [high, low], contents.drop (beValue [high, low])⟩) := if_pos enough
    simp only [framing, four]
    rw [show [first, second, high, low].drop 2 = [high, low] from rfl, value]
    exact ⟨_, _, rfl⟩

theorem failure_in_contents (failed : (scan registry (.whole octets)).2 = .error failure)
    (declared : declaredLength? octets = some length) (fits : 4 + length ≤ octets.length) :
    failure.In 4 (4 + length) := by
  obtain ⟨frame, rest, found⟩ := cut_of_fits declared fits
  rcases Scan.element_error.mp failed with header | ⟨frame, rest, cut, inside⟩
  · rw [found] at header
    cases header
  · obtain ⟨said, same, start, stop⟩ := value_of_cut cut
    cases declared.symm.trans same
    exact (within_of_ofFrame inside).in_contents start stop

end Tlv

namespace TlvSet
variable {τ : Type} {insert : τ → Tlv → Option Tlv × τ}

theorem within_of_filled {stopped : Option (Failure TlvReadError)} {failure : Failure TlvReadError}
    {set : τ} {frames : List (Frame UInt16)} (within : ∀ frame ∈ frames, frame.Within slice)
    (last : ∀ failure, stopped = some failure → failure.Within slice)
    (failed : (filled insert registry stopped set frames).2 = .error failure) :
    failure.Within slice := by
  induction frames generalizing set with
  | nil =>
    cases stopped with
    | none => cases failed
    | some other =>
      cases failed
      exact last _ rfl
  | cons frame frames ih =>
    obtain ⟨first, others⟩ := List.forall_mem_cons.mp within
    rw [filled] at failed
    split at failed
    · next found =>
      cases failed
      exact Tlv.confinedRead_ofFrame registry slice frame _ first (congrArg Prod.snd found)
    · exact ih others failed
    · exact ih others failed

instance (start : τ) : (scanInto insert start).Confined := by
  refine ⟨fun registry slice => ?_⟩
  have all := Tlv.confined_framing.cutAll slice
  rw [(records_scanInto insert start).apply]
  split
  · next found => exact within_of_filled all.1 all.2 (congrArg Prod.snd found)
  · exact slice.finish_within

instance {σ : Type} [TlvSet σ] : (TlvSet.scan : Scan TlvReadError σ).Confined := by
  unfold TlvSet.scan
  infer_instance

end TlvSet

/-! ## Subobjects -/

namespace Subobject

theorem confinedRead_rroOfFrame (registry : Registry) :
    ConfinedRead fun frame => (rroOfFrame registry frame).2 := by
  refine confinedRead_of_value fun frame failure failed => ?_
  rw [records_rroOfFrame.apply] at failed
  split at failed
  · cases failed
  · split at failed
    · next inside =>
      cases failed
      exact within_of_inside inside
    · cases failed

instance : scanRro.Confined := Scan.confined_elements confined_framing confinedRead_rroOfFrame

end Subobject

/-! ## Objects -/

instance (body : List RroSubobject → ObjectBody) : (ObjectBody.scanRoute body).Confined := by
  unfold ObjectBody.scanRoute
  infer_instance

instance {σ : Type} [TlvSet σ] (fixedPart : Reader ObjectReadError (σ → ObjectBody)) [fixedPart.Local] :
    (ObjectBody.withTlvs fixedPart).Confined := by
  unfold ObjectBody.withTlvs
  infer_instance

instance (kind : ObjectKind) : (ObjectBody.scan kind).Confined := by
  cases kind <;> (unfold ObjectBody.scan; infer_instance)

instance (kind : ObjectKind) : (ObjectValue.scan kind).Confined := by
  refine ⟨fun registry slice => ?_⟩
  have kept := (ObjectBody.scan kind).keeps registry slice
  rw [(ObjectValue.records_scan kind).apply]
  dsimp only
  split
  · exact slice.failure_within _
  · split
    · exact slice.skip_within _
    · rcases found : ObjectBody.scan kind registry slice with ⟨ignored, failure | ⟨body, rest⟩⟩ <;>
        (rw [found] at kept; exact kept)

/-- An error about the header of an object, which has no contents then. -/
def ObjectReadError.OfHeader : ObjectReadError → Prop
  | truncatedHeader _ | invalidLength _ | lengthMismatch _ => True
  | _ => False

namespace Object
variable {frame : Frame ObjectHeader} {failure : Failure ObjectReadError}

theorem confined_framing : framing.Confined := by
  rintro ⟨offset, octets⟩
  match octets with
  | [] | [_] | [_, _] | [_, _, _] => exact Slice.failure_within _ _
  | objectClass :: typeAndFlags :: high :: low :: contents =>
    dsimp only [framing]
    by_cases invalid : beValue [high, low] < 4 ∨ beValue [high, low] % 4 ≠ 0
    · rw [if_pos invalid]
      exact Slice.failure_within _ _
    · rw [if_neg invalid]
      cases cut : Slice.split? ⟨offset + 4, contents⟩ (beValue [high, low] - 4) with
      | none => exact Slice.failure_within _ _
      | some parts =>
        obtain ⟨here, after⟩ := Slice.within_behind [objectClass, typeAndFlags, high, low] cut
        exact ⟨⟨.refl _, here⟩, after⟩

theorem within_of_ofFrame (failed : (ofFrame registry frame).2 = .error failure) :
    failure.Within frame.value := by
  rw [records_ofFrame.apply] at failed
  split at failed
  · next kind _ =>
    have kept := (ObjectValue.scan kind).keeps registry frame.value
    split at failed
    · next inside =>
      cases failed
      rw [inside] at kept
      exact kept
    · cases failed
  · split at failed <;> cases failed

theorem confinedRead_ofFrame (registry : Registry) :
    ConfinedRead fun frame => (ofFrame registry frame).2 :=
  confinedRead_of_value fun _ _ => within_of_ofFrame

instance : scanAll.Confined := Scan.confined_elements confined_framing confinedRead_ofFrame

theorem value_of_cut (cut : framing.cut slice = .ok (frame, rest)) :
    ∃ length, declaredLength? slice.octets = some length ∧ frame.value.offset = slice.offset + 4 ∧
      frame.value.stop = slice.offset + length := by
  simp only [framing] at cut
  split at cut
  · next objectClass typeAndFlags high low contents split =>
    split at cut
    · cases cut
    · next valid =>
      split at cut
      · cases cut
      · next value behind parts =>
        cases cut
        obtain ⟨-, size, start, -⟩ := Slice.octets_of_split? parts
        refine ⟨beValue [high, low], ?_, start, ?_⟩
        · rw [split]
          rfl
        · rw [Slice.stop, size, start]
          dsimp only
          omega
  · cases cut

theorem ofHeader_of_cut (failed : framing.cut slice = .error failure) : failure.error.OfHeader := by
  simp only [framing] at failed
  split at failed
  · split at failed
    · cases failed
      trivial
    · split at failed <;> cases failed
      trivial
  · cases failed
    trivial

theorem failure_in_contents (failed : (scan registry (.whole octets)).2 = .error failure)
    (declared : declaredLength? octets = some length)
    (inside : ¬failure.error.OfHeader ∨ Object.Declares octets length) : failure.In 4 length := by
  rcases Scan.element_error.mp failed with header | ⟨frame, rest, cut, body⟩
  · rcases inside with other | declares
    · exact absurd (ofHeader_of_cut header) other
    · obtain ⟨_, _, found⟩ := Object.isolates_of_declares declares
      have whole := found (octets.drop length)
      rw [List.take_append_drop, header] at whole
      cases whole
  · obtain ⟨said, same, start, stop⟩ := value_of_cut cut
    cases declared.symm.trans same
    exact (within_of_ofFrame body).in_contents start stop

end Object

/-! ## Messages -/

namespace Message
variable {frame : Frame MessageType} {failure : Failure MessageReadError}

instance : readHeader.Local := by
  unfold readHeader
  infer_instance

theorem confined_framing : framing.Confined := by
  intro slice
  have header := readHeader.keeps slice
  dsimp only [framing]
  rcases found : readHeader slice with failure | ⟨⟨type, length⟩, behind⟩
  · rw [found] at header
    exact header
  · rw [found] at header
    dsimp only
    by_cases short : length < 4
    · rw [if_pos short]
      exact slice.failure_within _
    · rw [if_neg short]
      cases cut : behind.split? (length - 4) with
      | none => exact slice.failure_within _
      | some parts =>
        obtain ⟨here, after⟩ := Slice.within_of_split? cut
        exact ⟨⟨.refl slice, here.trans header⟩, after.trans header⟩

theorem within_of_ofFrame (failed : (ofFrame registry frame).2 = .error failure) :
    failure.Within frame.value := by
  have kept := (Object.scanAll.mapError MessageReadError.object).keeps registry frame.value
  rw [records_ofFrame.apply] at failed
  split at failed
  · next inside =>
    cases failed
    rw [inside] at kept
    exact kept
  · cases failed

theorem confinedRead_ofFrame (registry : Registry) :
    ConfinedRead fun frame => (ofFrame registry frame).2 :=
  confinedRead_of_value fun _ _ => within_of_ofFrame

theorem value_of_cut (cut : framing.cut slice = .ok (frame, rest)) :
    ∃ length, declaredLength? slice.octets = some length ∧ frame.value.offset = slice.offset + 4 ∧
      frame.value.stop = slice.offset + length := by
  obtain ⟨length, behind, header, least, parts, -⟩ := cut_ok.mp cut
  obtain ⟨version, -, -, -, place⟩ := readHeader_ok.mp header
  obtain ⟨-, size, start, -⟩ := Slice.octets_of_split? parts
  rw [List.length_append, length_beOctets] at place
  refine ⟨length, declaredLength?_of_readHeader header, start.trans place, ?_⟩
  rw [Slice.stop, size, start, place]
  simp only [List.length_cons, List.length_nil]
  omega

theorem error_of_readHeader (failed : readHeader slice = .error failure) (error : ObjectReadError) :
    failure.error ≠ .object error := by
  simp only [readHeader, bind_error, convert_error, octet_error, number_error, pure_apply, reduceCtorEq,
    and_false, exists_false, or_false] at failed
  rcases failed with (⟨-, rfl⟩ | ⟨version, _, -, unknown, rfl⟩) |
    ⟨_, _, -, (⟨-, rfl⟩ | ⟨code, _, -, undefined, rfl⟩) | ⟨_, _, -, -, rfl⟩⟩
  · rintro ⟨⟩
  · rw [checkVersion] at unknown
    split at unknown <;> cases unknown
    rintro ⟨⟩
  · rintro ⟨⟩
  · rw [typeOfCode, CodePoint.ofCode] at undefined
    split at undefined <;> cases undefined
    rintro ⟨⟩
  · rintro ⟨⟩

theorem error_of_cut (failed : framing.cut slice = .error failure) (error : ObjectReadError) :
    failure.error ≠ .object error := by
  simp only [framing] at failed
  split at failed
  · next header =>
    cases failed
    exact error_of_readHeader header error
  · split at failed
    · cases failed
      rintro ⟨⟩
    · split at failed <;> cases failed
      rintro ⟨⟩

theorem failure_in_contents {error : ObjectReadError}
    (failed : (scan registry (.whole octets)).2 = .error failure) (about : failure.error = .object error)
    (declared : declaredLength? octets = some length) : failure.In 4 length := by
  rcases Scan.element_error.mp failed with header | ⟨frame, rest, cut, inside⟩
  · exact absurd about (error_of_cut header error)
  · obtain ⟨said, same, start, stop⟩ := value_of_cut cut
    cases declared.symm.trans same
    exact (within_of_ofFrame inside).in_contents start stop

end Message
end Pcep

/-! ## Capabilities -/

namespace Bgp.Capability
open Framing Reader
variable {families : FamilyRegistry} {slice : Slice} {failure : Failure CapabilityReadError}

instance {ε : Type} [EndOfInput ε] : (readCodes : Reader ε FamilyCodes).Local := by
  unfold readCodes
  infer_instance

instance : (readMultiProtocol families).Local := by
  unfold readMultiProtocol
  infer_instance

instance : (readRestartFamily families).Local := by
  unfold readRestartFamily
  infer_instance

instance : (readPathFamily families).Local := by
  unfold readPathFamily
  infer_instance

instance {α : Type} (entry : Reader CapabilityReadError (Option α)) [entry.Local] :
    (readFamilies entry).Local := by
  have entries : ((ofWidth 4 (by decide)).readAll fun frame => entry.inside frame.value).Local :=
    (confined_ofWidth 4 (by decide)).local_readAll (uniform_ofWidth 4 (by decide))
      (confinedRead_of_value fun _ _ => within_of_inside)
      fun distance frame => inside_moved entry distance frame.value
  unfold readFamilies
  infer_instance

instance : (readGracefulRestart families).Local := by
  unfold readGracefulRestart
  infer_instance

instance (code : CapabilityCode) : (readValue families code).Local := by
  cases code <;> (unfold readValue; infer_instance)

theorem readContents_within (code? : Option CapabilityCode) (slice : Slice) :
    match readContents code? slice with
    | .error failure => failure.Within slice
    | .ok (value, _) => value.Within slice := by
  obtain ⟨offset, octets⟩ := slice
  cases octets with
  | nil => exact Slice.failure_within _ _
  | cons length behind =>
    simp only [readContents, octet]
    cases cut : Slice.split? ⟨offset + 1, behind⟩ length.toNat with
    | none => exact (Slice.failure_within _ _).trans (Slice.skip_within ⟨offset, length :: behind⟩ 1)
    | some parts =>
      have inside := (Slice.within_behind [length] cut).1
      cases code? with
      | none => exact inside
      | some code =>
        dsimp only
        cases fixedLength? code with
        | none => exact inside
        | some fixed =>
          by_cases fit : length.toNat = fixed
          · simp only [if_pos fit]
            exact inside
          · simp only [if_neg fit]
            exact Slice.failure_within _ _

theorem within_of_read (failed : read families slice = .error failure) : failure.Within slice := by
  rw [read, bind_error] at failed
  rcases failed with start | ⟨code, behind, first, later⟩
  · obtain ⟨-, rfl⟩ := octet_error.mp start
    exact slice.failure_within _
  · have outside : behind.Within slice := by
      have kept := (octet : Reader CapabilityReadError UInt8).keeps slice
      rw [first] at kept
      exact kept
    have contents := readContents_within (CodePoint.ofCode? code) behind
    rw [bind_error] at later
    rcases later with found | ⟨value, rest, found, inside⟩
    · rw [found] at contents
      exact contents.trans outside
    · rw [found] at contents
      cases known : (CodePoint.ofCode? code : Option CapabilityCode) with
      | none =>
        rw [known] at inside
        cases inside
      | some kind =>
        rw [known] at inside
        dsimp only at inside
        split at inside
        · next failed =>
          cases inside
          exact ((within_of_inside failed).trans contents).trans outside
        · cases inside

end Bgp.Capability

/-! ## The statement -/

open Pcep Bgp

/-- A failure is at a place within the octets that were read, whatever was read. That of an object inside
a message is behind the header of the message and within the length that it declares. So is that of
the body of an object, and that of the value of a TLV. -/
theorem failures_located (session : Session) (families : FamilyRegistry) (octets : List UInt8) :
    (∀ failure, (session.read Message.scan octets).1 = .error failure →
      failure.In 0 octets.length ∧
      ∀ error length, failure.error = .object error → Stream.declaredLength? octets = some length →
        failure.In 4 length) ∧
    (∀ failure, (session.read Object.scan octets).1 = .error failure →
      failure.In 0 octets.length ∧
      ∀ length, Stream.declaredLength? octets = some length →
        (¬failure.error.OfHeader ∨ Object.Declares octets length) → failure.In 4 length) ∧
    (∀ failure, (session.read Tlv.scan octets).1 = .error failure →
      failure.In 0 octets.length ∧
      ∀ length, Stream.declaredLength? octets = some length → 4 + length ≤ octets.length →
        failure.In 4 (4 + length)) ∧
    (∀ failure, (session.read Tlv.scanAll octets).1 = .error failure → failure.In 0 octets.length) ∧
    (∀ (σ : Type) [TlvSet σ] failure,
      (session.read (@TlvSet.scan σ _) octets).1 = .error failure → failure.In 0 octets.length) ∧
    (∀ failure, (Subobject.readEro session.registry).run octets = .error failure →
      failure.In 0 octets.length) ∧
    (∀ failure, (Subobject.readXro session.registry).run octets = .error failure →
      failure.In 0 octets.length) ∧
    (∀ failure, (session.read Subobject.scanRro octets).1 = .error failure →
      failure.In 0 octets.length) ∧
    (∀ failure, (Capability.read families).run octets = .error failure →
      failure.In 0 octets.length) := by
  simp only [Session.read_result]
  refine ⟨fun _ failed => ⟨(Scan.within_of_element Message.confined_framing
      (Message.confinedRead_ofFrame _) failed).in_whole,
        fun _ _ => Message.failure_in_contents failed⟩,
    fun _ failed => ⟨(Scan.within_of_element Object.confined_framing (Object.confinedRead_ofFrame _)
      failed).in_whole, fun _ => Object.failure_in_contents failed⟩,
    fun _ failed => ⟨(Scan.within_of_element Tlv.confined_framing (Tlv.confinedRead_ofFrame _)
      failed).in_whole, fun _ => Tlv.failure_in_contents failed⟩, ?_, ?_, ?_, ?_, ?_, ?_⟩
  · exact fun _ failed => (Tlv.scanAll.within_of_failed failed).in_whole
  · exact fun _ _ _ failed => (TlvSet.scan.within_of_failed failed).in_whole
  · exact fun _ failed => (Reader.within_of_failed failed).in_whole
  · exact fun _ failed => (Reader.within_of_failed failed).in_whole
  · exact fun _ failed => (Subobject.scanRro.within_of_failed failed).in_whole
  · exact fun _ failed => (Capability.within_of_read failed).in_whole

def FailsIn {ε α : Type} (answer : Except (Failure ε) α) (start stop : Nat) : Prop :=
  ∃ failure, answer = .error failure ∧ failure.In start stop

/-- Information of an enterprise that is too short to name it. -/
def shortTlv : List UInt8 := [0, 7, 0, 2, 9, 9, 0, 0]

def objectOfShortTlv : List UInt8 := [15, 18, 0, 16, 0, 0, 0, 3] ++ shortTlv

def messageOfShortTlv : List UInt8 := [32, 7, 0, 20] ++ objectOfShortTlv

def shortRoute : List UInt8 := [1, 3, 0]

theorem failures_located_short :
    let session := Session.start .full
    FailsIn (session.read Message.scan (messageOfShortTlv ++ [1, 2, 3])).1 4 20 ∧
    FailsIn (session.read Object.scan (objectOfShortTlv ++ [1, 2, 3])).1 4 16 ∧
    FailsIn (session.read Tlv.scan (shortTlv ++ [1, 2, 3])).1 4 6 ∧
    FailsIn (session.read Tlv.scanAll shortTlv).1 0 8 ∧
    FailsIn (session.read (@TlvSet.scan VendorTlvs _) shortTlv).1 0 8 ∧
    FailsIn ((Subobject.readEro session.registry).run shortRoute) 0 3 ∧
    FailsIn ((Subobject.readXro session.registry).run shortRoute) 0 3 ∧
    FailsIn (session.read Subobject.scanRro shortRoute).1 0 3 ∧
    FailsIn ((Capability.read .full).run [65, 4, 0, 0]) 0 4 := by
  intro session
  let mismatch : ValueLengthMismatch := ⟨7, 4, 2⟩
  let hop : Failure SubobjectReadError := ⟨.invalidValueLength ⟨1, 6, 1⟩, 2, 1⟩
  have inMessage : (session.read Message.scan (messageOfShortTlv ++ [1, 2, 3])).1 =
      .error ⟨.object (.tlv (.invalidValueLength mismatch)), 16, 2⟩ := by decide +kernel
  have inObject : (session.read Object.scan (objectOfShortTlv ++ [1, 2, 3])).1 =
      .error ⟨.tlv (.invalidValueLength mismatch), 12, 2⟩ := by decide +kernel
  have alone : (session.read Tlv.scan (shortTlv ++ [1, 2, 3])).1 =
      .error ⟨.invalidValueLength mismatch, 4, 2⟩ := by decide +kernel
  have inList : (session.read Tlv.scanAll shortTlv).1 =
      .error ⟨.invalidValueLength mismatch, 4, 2⟩ := by decide +kernel
  have inSet : (session.read (@TlvSet.scan VendorTlvs _) shortTlv).1 =
      .error ⟨.invalidValueLength mismatch, 4, 2⟩ := by decide +kernel
  have explicit : (Subobject.readEro session.registry).run shortRoute = .error hop := by decide +kernel
  have excluded : (Subobject.readXro session.registry).run shortRoute = .error hop := by decide +kernel
  have reported : (session.read Subobject.scanRro shortRoute).1 = .error hop := by decide +kernel
  have capability : (Capability.read .full).run [65, 4, 0, 0] = .error ⟨.endOfInput, 2, 2⟩ := by
    decide +kernel
  have located := failures_located session .full
  exact ⟨⟨_, inMessage, ((located _).1 _ inMessage).2 _ 20 rfl rfl⟩,
    ⟨_, inObject, ((located _).2.1 _ inObject).2 16 rfl (.inl id)⟩,
    ⟨_, alone, ((located _).2.2.1 _ alone).2 2 rfl (by decide)⟩,
    ⟨_, inList, (located _).2.2.2.1 _ inList⟩, ⟨_, inSet, (located _).2.2.2.2.1 _ _ inSet⟩,
    ⟨_, explicit, (located _).2.2.2.2.2.1 _ explicit⟩,
    ⟨_, excluded, (located _).2.2.2.2.2.2.1 _ excluded⟩,
    ⟨_, reported, (located _).2.2.2.2.2.2.2.1 _ reported⟩,
    ⟨_, capability, (located _).2.2.2.2.2.2.2.2 _ capability⟩⟩

end RouteWire
