import RouteWire.Pcep.Stream
import RouteWire.Proofs.Pcep.Object.Frame
/-!
Messages, written and read. Reading a written message gives the message back, up to the parts that the
registry does not know, and a message that was read is written in a form that is read as the same
message.

Main statements: `read_written`, `read_rewritten`.
-/
namespace RouteWire.Pcep.Message
open Framing Reader
variable {registry : Registry} {slice rest : Slice} {octets : List UInt8} {message : Message}

theorem checkVersion_ok {octet : UInt8} {value : Unit} :
    checkVersion octet = .ok value ↔ octet / 32 = protocolVersion := by
  rw [checkVersion]
  split
  · next same => simp [same]
  · next other => simp [other]

theorem readHeader_ok {type : MessageType} {length : Nat} :
    readHeader slice = .ok ((type, length), rest) ↔
      ∃ version : UInt8, version / 32 = protocolVersion ∧ length < 256 ^ 2 ∧
        Behind slice ([version, CodePoint.code type] ++ beOctets 2 length) rest := by
  simp only [readHeader, Reader.bind_ok, convert_ok, octet_ok, number_ok, pure_ok, checkVersion_ok,
    typeOfCode, CodePoint.ofCode_ok, Prod.mk.injEq]
  constructor
  · rintro ⟨_, _, ⟨version, first, valid⟩, _, _, ⟨_, second, rfl⟩, _, _, ⟨bound, third⟩, ⟨rfl, rfl⟩, rfl⟩
    exact ⟨version, valid, bound,
      behind_append_iff.mpr ⟨_, behind_cons_iff.mpr ⟨_, first, second⟩, third⟩⟩
  · rintro ⟨version, valid, bound, behind⟩
    obtain ⟨_, front, third⟩ := behind_append_iff.mp behind
    obtain ⟨_, first, second⟩ := behind_cons_iff.mp front
    exact ⟨(), _, ⟨version, first, valid⟩, type, _, ⟨_, second, rfl⟩, length, _, ⟨bound, third⟩,
      ⟨rfl, rfl⟩, rfl⟩

theorem declaredLength?_of_readHeader {type : MessageType} {length : Nat}
    (found : readHeader slice = .ok ((type, length), rest)) :
    Stream.declaredLength? slice.octets = some length := by
  obtain ⟨version, -, bound, behind⟩ := readHeader_ok.mp found
  obtain ⟨high, low, split⟩ := List.length_eq_two.mp (length_beOctets 2 length)
  have value : beValue [high, low] = length := by
    rw [← split, beValue_beOctets_of_lt bound]
  rw [behind.1, split]
  exact congrArg some value

theorem cut_ok {frame : Frame MessageType} :
    framing.cut slice = .ok (frame, rest) ↔
      ∃ length behind, readHeader slice = .ok ((frame.header, length), behind) ∧ 4 ≤ length ∧
        behind.split? (length - 4) = some (frame.value, rest) ∧ frame.start = slice := by
  obtain ⟨start, type, value⟩ := frame
  simp only [framing]
  cases header : readHeader slice with
  | error failure => simp
  | ok found =>
    obtain ⟨⟨kind, length⟩, behind⟩ := found
    dsimp only
    split
    · next short =>
      simp only [reduceCtorEq, Except.ok.injEq, Prod.mk.injEq, false_iff]
      rintro ⟨_, _, ⟨⟨-, rfl⟩, -⟩, enough, -⟩
      omega
    · next enough =>
      cases cut : behind.split? (length - 4) with
      | none =>
        simp only [reduceCtorEq, Except.ok.injEq, Prod.mk.injEq, false_iff]
        rintro ⟨_, _, ⟨⟨-, rfl⟩, rfl⟩, -, found, -⟩
        rw [cut] at found
        cases found
      | some parts =>
        obtain ⟨body, after⟩ := parts
        simp only [Except.ok.injEq, Prod.mk.injEq, Frame.mk.injEq]
        constructor
        · rintro ⟨⟨rfl, rfl, rfl⟩, rfl⟩
          exact ⟨length, behind, ⟨⟨rfl, rfl⟩, rfl⟩, Nat.le_of_not_lt enough, cut, rfl⟩
        · rintro ⟨_, _, ⟨⟨rfl, rfl⟩, rfl⟩, -, found, rfl⟩
          rw [cut] at found
          cases found
          exact ⟨⟨rfl, rfl, rfl⟩, rfl⟩

theorem cut_header {contents : List UInt8} (fits : 4 + contents.length ≤ 65535) :
    framing.cut ⟨0, message.header (4 + contents.length) ++ contents⟩ =
      .ok (⟨⟨0, message.header (4 + contents.length) ++ contents⟩, message.type, ⟨4, contents⟩⟩,
        ⟨4 + contents.length, []⟩) := by
  have length : (message.header (4 + contents.length)).length = 4 := by simp [header]
  have found : readHeader ⟨0, message.header (4 + contents.length) ++ contents⟩ =
      .ok ((message.type, 4 + contents.length), ⟨4, contents⟩) := by
    refine readHeader_ok.mpr ⟨32, by decide, Nat.lt_succ_of_le fits, rfl, ?_⟩
    simp
  refine cut_ok.mpr ⟨_, _, found, Nat.le_add_right .., ?_, rfl⟩
  rw [Nat.add_sub_cancel_left, Slice.split?_eq_some_iff]
  exact ⟨(List.append_nil contents).symm, rfl, rfl, rfl⟩

theorem script_ok :
    (message.script registry).toExcept = .ok octets ↔
      message.length registry ≤ 65535 ∧
        (∀ object ∈ message.objects, (object.script registry).failure = none) ∧
          octets = message.header (message.length registry) ++
            message.objects.flatMap fun object => (object.script registry).octets := by
  rw [script]
  split
  · next long => simp [Nat.not_le_of_lt long]
  · next short =>
    rw [Script.emit_append_ok]
    simp only [Script.concat_map_ok, Script.failure_mapError, Option.map_eq_none_iff,
      Script.octets_mapError, Nat.le_of_not_lt short, true_and]
    constructor
    · rintro ⟨_, ⟨runs, rfl⟩, rfl⟩
      exact ⟨runs, rfl⟩
    · rintro ⟨runs, rfl⟩
      exact ⟨_, ⟨runs, rfl⟩, rfl⟩

/-- The message without the TLVs and the subobjects of reported routes whose codes are not registered. -/
def enabled (registry : Registry) (message : Message) : Message :=
  { message with objects := message.objects.map (Object.enabled registry) }

def Identified (message : Message) : Prop := ∀ object ∈ message.objects, object.Identified

theorem scan_script (canonical : registry.Canonical)
    (readable : ∀ object ∈ message.objects, object.Readable registry)
    (written : (message.script registry).toExcept = .ok octets) :
    scan registry (.whole octets) = (∅, .ok (message.enabled registry, ⟨octets.length, []⟩)) := by
  obtain ⟨fits, runs, whole⟩ := script_ok.mp written
  have size := Object.length_flatMap_script runs
  have scanned := Object.scanAll_script canonical readable runs 4
  rw [length, ← size] at fits whole
  have total : octets.length = 4 + (message.objects.flatMap fun object =>
      (object.script registry).octets).length := by
    rw [whole, List.length_append, header]
    simp
  rw [total, whole]
  refine Scan.element_ok.mpr ⟨_, cut_header fits, ?_⟩
  rw [records_ofFrame.apply, Scan.mapError_ok.mpr scanned]
  rfl

/-- The message has no objects that could not be read as their kinds, and the fields that are written
without a check have values that are read back. -/
def Legible (registry : Registry) (message : Message) : Prop :=
  ∀ object ∈ message.objects, ∃ body, object.value = .known body ∧ body.Readable registry

theorem Legible.readable (legible : message.Legible registry) :
    ∀ object ∈ message.objects, object.Readable registry := by
  intro object member
  obtain ⟨body, known, readable⟩ := legible object member
  rw [Object.Readable, known]
  exact readable

theorem read_written {session : Session} (assembled : session.registry.Assembled)
    (legible : message.Legible session.registry)
    (written : (message.script session.registry).run none = (octets, none)) :
    session.read Message.scan octets =
      (.ok (message.enabled session.registry, ⟨octets.length, []⟩), session) := by
  exact Session.read_of_scan
    (scan_script assembled.canonical legible.readable (Script.run_none_iff.mp written))

/-- An opening with the version of a database, and a reported route with a segment: the base extension
knows neither of the two. -/
def beyondBase : Message where
  type := .report
  objects :=
    [⟨⟨true, false⟩, .known (.opening ⟨0, 30, 120, 1,
        { objectiveFunctionList := some [1, 5], lspDbVersion := some 7 }⟩)⟩,
      ⟨⟨false, true⟩, .known (.reportedRoute
        [.segmentRouting ⟨.ipv4NodeId, false, true, some 4096, none⟩, .pathKeyIpv4 ⟨9, ⟨16909060⟩⟩])⟩]

def withinBase : Message where
  type := .report
  objects :=
    [⟨⟨true, false⟩, .known (.opening ⟨0, 30, 120, 1, { objectiveFunctionList := some [1, 5] }⟩)⟩,
      ⟨⟨false, true⟩, .known (.reportedRoute [.pathKeyIpv4 ⟨9, ⟨16909060⟩⟩])⟩]

theorem legible_beyondBase (registry : Registry) : beyondBase.Legible registry := by
  intro object member
  obtain rfl | rfl := List.mem_pair.mp member
  · refine ⟨_, rfl, trivial, fun tlv inside => ?_⟩
    obtain rfl | rfl := List.mem_pair.mp inside <;> trivial
  · refine ⟨_, rfl, trivial, fun subobject inside => ?_⟩
    obtain rfl | rfl := List.mem_pair.mp inside
    · intro nai absent
      cases absent
    · trivial

theorem read_written_beyondBase :
    (Session.start (Registry.empty.enable .base)).read Message.scan
        [32, 10, 0, 32, 1, 18, 0, 16, 32, 30, 120, 1, 0, 4, 0, 4, 0, 1, 0, 5,
          8, 17, 0, 12, 64, 8, 0, 9, 1, 2, 3, 4] =
      (.ok (withinBase, ⟨32, []⟩), Session.start (Registry.empty.enable .base)) := by
  have written : (beyondBase.script (Session.start (Registry.empty.enable .base)).registry).run none =
      ([32, 10, 0, 32, 1, 18, 0, 16, 32, 30, 120, 1, 0, 4, 0, 4, 0, 1, 0, 5,
        8, 17, 0, 12, 64, 8, 0, 9, 1, 2, 3, 4], none) := by decide +kernel
  exact read_written (.base .empty) (legible_beyondBase _) written

theorem objects_of_scan (canonical : registry.Canonical) {ignored : Ignored}
    (found : scan registry (.whole octets) = (ignored, .ok (message, rest))) :
    (∀ object ∈ message.objects, object.Readable registry ∧ object.enabled registry = object ∧
      (object.Identified → (object.script registry).failure = none)) ∧
      ∃ declared, Stream.declaredLength? octets = some declared ∧ declared ≤ 65535 ∧
        message.length registry ≤ declared := by
  obtain ⟨frame, cut, action⟩ := Scan.element_ok.mp found
  obtain ⟨declared, behind, head, enough, split, -⟩ := cut_ok.mp cut
  obtain ⟨-, -, bound, -⟩ := readHeader_ok.mp head
  obtain ⟨-, length, -, -⟩ := Slice.octets_of_split? split
  rw [records_ofFrame.apply] at action
  split at action
  · cases action
  · next ignored objects after answer =>
    cases action
    obtain ⟨sound, sum⟩ := Object.objects_of_scan canonical (Scan.mapError_ok.mp answer)
    refine ⟨sound, declared, declaredLength?_of_readHeader head, Nat.le_of_lt_succ bound, ?_⟩
    rw [Message.length]
    dsimp only
    omega

theorem read_rewritten {session later : Session} (assembled : session.registry.Assembled)
    (found : session.read Message.scan octets = (.ok (message, rest), later))
    (identified : message.Identified) :
    ∃ declared written, Stream.declaredLength? octets = some declared ∧
      (message.script session.registry).run none = (written, none) ∧ written.length ≤ declared ∧
        later.read Message.scan written = (.ok (message, ⟨written.length, []⟩), later) := by
  obtain ⟨ignored, scanned, rfl⟩ := Session.read_ok.mp found
  obtain ⟨sound, declared, length, limit, fits⟩ := objects_of_scan assembled.canonical scanned
  have runs object member := (sound object member).2.2 (identified object member)
  have written := script_ok.mpr ⟨Nat.le_trans fits limit, runs, rfl⟩
  have again := scan_script assembled.canonical (fun object member => (sound object member).1) written
  have same : message.enabled session.registry = message := by
    rw [enabled, List.map_congr_left fun object member => (sound object member).2.1, List.map_id']
  refine ⟨declared, _, length, Script.run_none_iff.mpr written, ?_, ?_⟩
  · rw [List.length_append, Object.length_flatMap_script runs, header, List.length_append,
      length_beOctets]
    exact fits
  · rw [same] at again
    exact Session.read_of_scan again

/-- The octets of `withinBase` in another form: with reserved bits, with an unknown TLV and one that
comes twice, with an object that is dropped, with an unknown subobject, and with an octet behind. -/
def cluttered : List UInt8 :=
  [37, 10, 0, 56,
    1, 18, 0, 32, 32, 30, 120, 1, 39, 15, 0, 2, 7, 8, 0, 0, 0, 4, 0, 2, 0, 9, 0, 0, 0, 4, 0, 4, 0, 1, 0, 5,
    200, 16, 0, 4,
    8, 17, 0, 16, 99, 4, 0, 0, 64, 8, 0, 9, 1, 2, 3, 4,
    255]

def afterCluttered : Session :=
  ((Session.start (Registry.empty.enable .base)).read Message.scan cluttered).2

theorem read_rewritten_cluttered :
    ∃ declared written, Stream.declaredLength? cluttered = some declared ∧
      (withinBase.script (Session.start (Registry.empty.enable .base)).registry).run none =
        (written, none) ∧ written.length ≤ declared ∧
          afterCluttered.read Message.scan written =
            (.ok (withinBase, ⟨written.length, []⟩), afterCluttered) := by
  have answer : ((Session.start (Registry.empty.enable .base)).read Message.scan cluttered).1 =
      .ok (withinBase, ⟨56, [255]⟩) := by decide +kernel
  have found : (Session.start (Registry.empty.enable .base)).read Message.scan cluttered =
      (.ok (withinBase, ⟨56, [255]⟩), afterCluttered) := Prod.ext answer rfl
  have identified : withinBase.Identified := by
    intro object member
    obtain rfl | rfl := List.mem_pair.mp member
    · trivial
    · intro subobject inside
      obtain rfl := List.mem_singleton.mp inside
      trivial
  exact read_rewritten (.base .empty) found identified

end RouteWire.Pcep.Message
