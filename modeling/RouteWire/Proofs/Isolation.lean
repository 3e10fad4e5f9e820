import RouteWire.Proofs.Bgp.Capability
import RouteWire.Proofs.Pcep.Message
/-!
Octets behind an element. An element whose header declares a length that there is room for is read from
its own octets only: whatever stands behind them, the value or the failure is the same, and so is what
is recorded, and exactly the octets behind the element are left.

Main statements: `Pcep.Session.isolates_element`, `octets_behind_unheeded`.
-/
namespace RouteWire
variable {η ε α : Type}

def leaving (rest : Slice) : Except ε (α × Slice) → Except ε (α × Slice)
  | .error failure => .error failure
  | .ok (value, _) => .ok (value, rest)

/-- The first `length` octets are cut off as one element, whose header and contents are the same
whatever stands behind them. -/
def Framing.Isolates (framing : Framing η ε) (octets : List UInt8) (length : Nat) : Prop :=
  ∃ header value, ∀ behind,
    framing.cut (.whole (octets.take length ++ behind)) =
      .ok (⟨.whole (octets.take length ++ behind), header, value⟩, ⟨length, behind⟩)

theorem take_header {first second high low : UInt8} {contents : List UInt8} {length : Nat}
    (least : 4 ≤ length) :
    (first :: second :: high :: low :: contents).take length =
      first :: second :: high :: low :: contents.take (length - 4) := by
  obtain ⟨more, rfl⟩ := Nat.exists_eq_add_of_le' least
  rfl

namespace Pcep
variable {octets : List UInt8} {length : Nat}

/-- In a session, reading octets comes to the same with any others behind the first `length` of them:
value or failure, and record; what is left are those others. -/
def Session.Isolates (session : Session) (scan : Scan ε α) (octets : List UInt8)
    (length : Nat) : Prop :=
  ∀ behind, session.read scan (octets.take length ++ behind) =
    (leaving ⟨length, behind⟩ (session.read scan octets).1, (session.read scan octets).2)

theorem Session.isolates_element {framing : Framing η ε} {read : FrameReader η ε α}
    (unplaced : ∀ session start other header value,
      read.run ⟨start, header, value⟩ session = read.run ⟨other, header, value⟩ session)
    (isolated : framing.Isolates octets length) (session : Session) :
    session.Isolates (Scan.element framing read) octets length := by
  obtain ⟨header, value, cut⟩ := isolated
  have whole := cut (octets.drop length)
  rw [List.take_append_drop] at whole
  intro behind
  simp only [Session.read, Scan.element, whole, cut behind]
  rw [unplaced session _ (.whole octets)]
  rcases read.run ⟨.whole octets, header, value⟩ session with ⟨failure | result, later⟩ <;> rfl

/-! ## Messages and objects -/

/-- Octets that start with the header of a message of the known version and of some type, and that are
at least as many as it declares. -/
inductive Message.Declares : List UInt8 → Nat → Prop
  | header {version : UInt8} {type : MessageType} {high low : UInt8} {contents : List UInt8}
      (known : version / 32 = protocolVersion) (least : 4 ≤ beValue [high, low])
      (fits : beValue [high, low] ≤ 4 + contents.length) :
      Declares (version :: CodePoint.code type :: high :: low :: contents) (beValue [high, low])

theorem Message.isolates_of_declares (declared : Message.Declares octets length) :
    framing.Isolates octets length := by
  obtain @⟨version, type, high, low, contents, known, least, fits⟩ := declared
  refine ⟨type, ⟨4, contents.take (beValue [high, low] - 4)⟩, fun behind => ?_⟩
  have size : (contents.take (beValue [high, low] - 4)).length = beValue [high, low] - 4 :=
    List.length_take_of_le (by omega)
  rw [take_header least]
  have found : readHeader (.whole (version :: CodePoint.code type :: high :: low ::
      (contents.take (beValue [high, low] - 4) ++ behind))) =
        .ok ((type, beValue [high, low]),
          ⟨4, contents.take (beValue [high, low] - 4) ++ behind⟩) := by
    refine readHeader_ok.mpr ⟨version, known, beValue_lt_pow rfl, ?_⟩
    rw [beOctets_beValue (by rfl)]
    exact ⟨rfl, rfl⟩
  refine cut_ok.mpr ⟨_, _, found, least, ?_, rfl⟩
  exact Slice.split?_eq_some_iff.mpr ⟨rfl, size, rfl, (Nat.add_sub_cancel' least).symm⟩

/-- Octets that start with the header of an object whose length is a multiple of four, and that are at
least as many as it declares. -/
inductive Object.Declares : List UInt8 → Nat → Prop
  | header {objectClass typeAndFlags high low : UInt8} {contents : List UInt8}
      (least : 4 ≤ beValue [high, low]) (aligned : beValue [high, low] % 4 = 0)
      (fits : beValue [high, low] ≤ 4 + contents.length) :
      Declares (objectClass :: typeAndFlags :: high :: low :: contents) (beValue [high, low])

theorem Object.isolates_of_declares (declared : Object.Declares octets length) :
    framing.Isolates octets length := by
  obtain @⟨objectClass, typeAndFlags, high, low, contents, least, aligned, fits⟩ := declared
  refine ⟨⟨⟨objectClass, typeAndFlags / 16⟩, .ofOctet typeAndFlags⟩,
    ⟨4, contents.take (beValue [high, low] - 4)⟩, fun behind => ?_⟩
  have size : (contents.take (beValue [high, low] - 4)).length = beValue [high, low] - 4 :=
    List.length_take_of_le (by omega)
  have valid : ¬(beValue [high, low] < 4 ∨ beValue [high, low] % 4 ≠ 0) := by omega
  have split : Slice.split? ⟨4, contents.take (beValue [high, low] - 4) ++ behind⟩
      (beValue [high, low] - 4) =
        some (⟨4, contents.take (beValue [high, low] - 4)⟩, ⟨beValue [high, low], behind⟩) :=
    Slice.split?_eq_some_iff.mpr ⟨rfl, size, rfl, (Nat.add_sub_cancel' least).symm⟩
  rw [take_header least]
  simp only [framing, Slice.whole, List.cons_append, valid, if_false, Nat.zero_add, split]

end Pcep

/-! ## Capabilities -/

namespace Bgp.Capability
variable {octets : List UInt8} {length : Nat}

/-- Octets that start with the code and the length of a capability, and that are at least as many as
that makes. -/
inductive Declares : List UInt8 → Nat → Prop
  | header {code size : UInt8} {contents : List UInt8} (fits : size.toNat ≤ contents.length) :
      Declares (code :: size :: contents) (2 + size.toNat)

def place (failure : Failure CapabilityReadError) : CapabilityReadError × Nat :=
  (failure.error, failure.offset)

theorem read_whole_append (families : FamilyRegistry) (code : UInt8) {size : UInt8}
    {value : List UInt8} (length : value.length = size.toNat) (behind : List UInt8) :
    (read families (.whole (code :: size :: (value ++ behind)))).mapError place =
      leaving ⟨2 + size.toNat, behind⟩
        ((read families (.whole (code :: size :: value))).mapError place) := by
  have split (behind : List UInt8) : Slice.split? ⟨2, value ++ behind⟩ size.toNat =
      some (⟨2, value⟩, ⟨2 + size.toNat, behind⟩) :=
    Slice.split?_eq_some_iff.mpr ⟨rfl, length, rfl, rfl⟩
  have alone := split []
  rw [List.append_nil] at alone
  simp only [read, Reader.bind_apply, Reader.octet, readContents, Slice.whole, Nat.zero_add, split, alone]
  cases (CodePoint.ofCode? code : Option CapabilityCode) with
  | none => rfl
  | some known =>
    dsimp only
    cases fixedLength? known with
    | none =>
      dsimp only
      cases (readValue families known).inside ⟨2, value⟩ <;> rfl
    | some fixed =>
      -- A length that does not fit the code is told at the length octet, where `behind` is still left.
      by_cases fit : size.toNat = fixed
      · simp only [if_pos fit]
        cases (readValue families known).inside ⟨2, value⟩ <;> rfl
      · simp only [if_neg fit]
        rfl

theorem read_of_declares (families : FamilyRegistry) (declared : Declares octets length)
    (behind : List UInt8) :
    (read families (.whole (octets.take length ++ behind))).mapError place =
      leaving ⟨length, behind⟩ ((read families (.whole octets)).mapError place) := by
  obtain @⟨code, size, contents, fits⟩ := declared
  have front : (code :: size :: contents).take (2 + size.toNat) =
      code :: size :: contents.take size.toNat := by
    rw [Nat.add_comm]
    rfl
  have value : (contents.take size.toNat).length = size.toNat := List.length_take_of_le fits
  have whole := read_whole_append families code value (contents.drop size.toNat)
  rw [List.take_append_drop] at whole
  rw [front, whole]
  refine (read_whole_append families code value behind).trans ?_
  cases (read families (.whole (code :: size :: contents.take size.toNat))).mapError place <;> rfl

end Bgp.Capability

/-! ## The statement -/

open Pcep Bgp

/-- If octets start with a header that declares no more than there is, then what stands behind so many
of them has no influence on the message, object or capability in front: in every session, value or
failure and record are the same, and what is left is what stands behind. -/
theorem octets_behind_unheeded (session : Session) (families : FamilyRegistry) (octets : List UInt8)
    (length : Nat) :
    (Message.Declares octets length → session.Isolates Message.scan octets length) ∧
    (Object.Declares octets length → session.Isolates Object.scan octets length) ∧
    (Capability.Declares octets length → ∀ behind,
      (Capability.read families (.whole (octets.take length ++ behind))).mapError Capability.place =
        leaving ⟨length, behind⟩
          ((Capability.read families (.whole octets)).mapError Capability.place)) :=
  ⟨fun declared => Session.isolates_element (fun _ _ _ _ _ => rfl)
      (Message.isolates_of_declares declared) session,
    fun declared => Session.isolates_element (fun _ _ _ _ _ => rfl)
      (Object.isolates_of_declares declared) session,
    Capability.read_of_declares families⟩

/-- A message with an object that says more than the message has, an object with a TLV of unknown code,
and a capability whose length is not that of its code; each with the start of another behind it. -/
theorem octets_behind_unheeded_misfits :
    let session := Session.start .full
    let message := [32, 7, 0, 12, 15, 18, 0, 12, 0, 0, 0, 3, 32, 2, 0, 4]
    let object := [15, 18, 0, 16, 0, 0, 0, 3, 39, 15, 0, 4, 1, 2, 3, 4, 15, 18]
    (session.Isolates Message.scan message 12 ∧ ∃ mismatch, (session.read Message.scan message).1 =
      .error ⟨.object (.lengthMismatch mismatch), 4, 8⟩) ∧
    (session.Isolates Object.scan object 16 ∧
      (session.read Object.scan object).2.ignored = { unknownTlvs := #[9999] }) ∧
    ∀ behind, (Capability.read .full (.whole ([65, 3, 0, 0, 9] ++ behind))).mapError Capability.place =
      .error (.wrongLength .fourOctetAs 3, 1) := by
  intro session message object
  have messageDeclares : Message.Declares message 12 :=
    @Message.Declares.header 32 .close 0 12 _ (by decide) (by decide) (by decide)
  have objectDeclares : Object.Declares object 16 := .header (by decide) (by decide) (by decide)
  have capabilityDeclares : Capability.Declares [65, 3, 0, 0, 9, 65] 5 := .header (by decide)
  refine ⟨⟨(octets_behind_unheeded session .full _ _).1 messageDeclares, ⟨12, 8⟩, by decide +kernel⟩,
    ⟨(octets_behind_unheeded session .full _ _).2.1 objectDeclares, by decide +kernel⟩, fun behind => ?_⟩
  have found := (octets_behind_unheeded session .full _ _).2.2 capabilityDeclares behind
  have failed : (Capability.read .full (.whole [65, 3, 0, 0, 9, 65])).mapError Capability.place =
      .error (.wrongLength .fourOctetAs 3, 1) := by decide +kernel
  rw [failed] at found
  exact found

end RouteWire
