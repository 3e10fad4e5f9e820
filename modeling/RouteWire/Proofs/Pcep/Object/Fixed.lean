import RouteWire.Pcep.Object.Decode
import RouteWire.Pcep.Object.Encode
import RouteWire.Proofs.Reading
/-!
The fixed parts of bodies that carry TLVs, written and read. The reader of a fixed part gives the body
with its TLVs still to come, so each lemma is about that function.

Main statements: `readOpening_octets` and `opening_of_read`, and their companions.
-/
namespace RouteWire.Pcep.ObjectBody
open Reader
variable {slice rest : Slice}

theorem bitsValue_lt_of {flags : List Bool} {width : Nat} (short : flags.length ≤ 8 * width) :
    bitsValue flags < 256 ^ width := by
  have power : 2 ^ (8 * width) = 256 ^ width := Nat.pow_mul 2 8 width
  rw [← power]
  exact Nat.lt_of_lt_of_le (bitsValue_lt flags) (Nat.pow_le_pow_right (by decide) short)

theorem openingCheck {body : OpeningBody} :
    check (.opening body) = none ↔ body.flags.toNat ≤ 31 := by
  simp only [check, UInt8.lt_iff_toNat_lt]
  split
  · next large =>
    simp only [reduceCtorEq, false_iff]
    exact Nat.not_le_of_lt large
  · next small => exact iff_of_true rfl (Nat.le_of_not_lt small)

theorem readOpening_octets {body : OpeningBody} (checked : check (.opening body) = none)
    (behind : Behind slice (fixedPart (.opening body)) rest) :
    readOpening slice = .ok (fun tlvs => .opening { body with tlvs }, rest) := by
  have small := openingCheck.mp checked
  have flags : UInt8.ofNat (protocolVersion.toNat * 32 + body.flags.toNat) % 32 = body.flags := by
    have version : protocolVersion.toNat = 1 := rfl
    have fits : 1 * 32 + body.flags.toNat < UInt8.size :=
      Nat.lt_of_le_of_lt (Nat.add_le_add_left small _) (by decide)
    apply UInt8.toNat_inj.mp
    rw [UInt8.toNat_mod, version, UInt8.toNat_ofNat_of_lt' fits]
    change (1 * 32 + body.flags.toNat) % 32 = body.flags.toNat
    omega
  obtain ⟨_, first, behind⟩ := behind_cons_iff.mp behind
  obtain ⟨_, second, behind⟩ := behind_cons_iff.mp behind
  obtain ⟨_, third, fourth⟩ := behind_cons_iff.mp behind
  simp only [readOpening, Reader.bind_ok, octet_ok, pure_ok]
  exact ⟨_, _, first, _, _, second, _, _, third, _, _, fourth, by rw [flags], rfl⟩

theorem opening_of_read {make : OpeningTlvs → ObjectBody}
    (found : readOpening slice = .ok (make, rest)) :
    slice.octets.length = 4 + rest.octets.length ∧ ∃ body : OpeningBody,
      body.flags.toNat ≤ 31 ∧ make = fun tlvs => .opening { body with tlvs } := by
  simp only [readOpening, Reader.bind_ok, octet_ok, pure_ok] at found
  obtain ⟨flags, _, first, keepalive, _, second, deadTimer, _, third, sessionId, _, fourth, rfl, rfl⟩ :=
    found
  refine ⟨?_, ⟨flags % 32, keepalive, deadTimer, sessionId, TlvSet.empty⟩, ?_, rfl⟩
  · rw [first.length, second.length, third.length, fourth.length]
    dsimp only [List.length_cons, List.length_nil]
    omega
  · rw [UInt8.toNat_mod]
    exact Nat.le_of_lt_succ (Nat.mod_lt _ (by decide))

theorem readRequestParameters_octets {body : RequestParametersBody}
    (small : body.priority.toNat ≤ 7)
    (behind : Behind slice (fixedPart (.requestParameters body)) rest) :
    readRequestParameters slice = .ok (fun tlvs => .requestParameters { body with tlvs }, rest) := by
  obtain ⟨_, flags, requestId⟩ := behind_append_iff.mp behind
  generalize bits_eq : [body.reoptimization, body.bidirectional, body.loose, body.vspt,
    body.supplyObjectiveFunction, body.pathKey, body.reportOrder, body.makeBeforeBreak,
    body.eroCompression, body.p2mp, body.fragmentation] = bits
  have word : body.flags = 2 ^ 3 * bitsValue bits + body.priority.toNat := by
    rw [RequestParametersBody.flags, bits_eq]
    omega
  have bound : bitsValue bits < 2 ^ 11 := by
    rw [← bits_eq]
    exact bitsValue_lt _
  have priority : UInt8.ofNat (body.flags % 8) = body.priority := by
    have low : body.flags % 8 = body.priority.toNat := by omega
    rw [low, UInt8.ofNat_toNat]
  have flag (i : Nat) : body.flags.testBit (3 + i) = bits.getD i false := by
    rw [word, Nat.testBit_two_pow_mul_add _ (by omega), if_neg (by omega),
      Nat.add_sub_cancel_left, testBit_bitsValue]
  simp only [readRequestParameters, Reader.bind_ok, number_ok, word32_ok, pure_ok]
  refine ⟨_, _, ⟨by omega, flags⟩, _, _, requestId, ?_, rfl⟩
  funext tlvs
  rw [priority, flag 0, flag 1, flag 2, flag 3, flag 4, flag 5, flag 6, flag 7, flag 8, flag 9,
    flag 10, ← bits_eq]
  rfl

theorem requestParameters_of_read {make : RequestParametersTlvs → ObjectBody}
    (found : readRequestParameters slice = .ok (make, rest)) :
    slice.octets.length = 8 + rest.octets.length ∧ ∃ body : RequestParametersBody,
      body.priority.toNat ≤ 7 ∧ make = fun tlvs => .requestParameters { body with tlvs } := by
  simp only [readRequestParameters, Reader.bind_ok, number_ok, word32_ok, pure_ok] at found
  obtain ⟨flags, _, ⟨-, first⟩, requestId, _, second, rfl, rfl⟩ := found
  refine ⟨?_, ⟨UInt8.ofNat (flags % 8), _, _, _, _, _, _, _, _, _, _, _, requestId, TlvSet.empty⟩, ?_,
    rfl⟩
  · rw [first.length, second.length, length_beOctets, length_word32]
    omega
  · have low : flags % 8 < 8 := Nat.mod_lt _ (by decide)
    rw [UInt8.toNat_ofNat_of_lt' (Nat.lt_trans low (by decide))]
    exact Nat.le_of_lt_succ low

theorem readNoPath_octets {body : NoPathBody} (behind : Behind slice (fixedPart (.noPath body)) rest) :
    readNoPath slice = .ok (fun tlvs => .noPath { body with tlvs }, rest) := by
  obtain ⟨_, nature, back⟩ := behind_cons_iff.mp behind
  have split (flag : UInt8) : [flag, 0, 0] = [flag, 0] ++ [0] := rfl
  rw [split] at back
  obtain ⟨_, flags, reserved⟩ := behind_append_iff.mp back
  have length : [if body.unsatisfiedConstraints then 128 else 0, (0 : UInt8)].length = 2 := rfl
  have value : (beValue [if body.unsatisfiedConstraints then 128 else 0, 0]).testBit 15 =
      body.unsatisfiedConstraints := by
    cases body.unsatisfiedConstraints <;> decide
  simp only [readNoPath, Reader.bind_ok, octet_ok, number_ok, pure_ok]
  refine ⟨_, _, nature, _, _, ⟨beValue_lt_pow length, ?_⟩, 0, _, reserved, ?_, rfl⟩
  · rwa [beOctets_beValue length]
  · rw [value]

theorem noPath_of_read {make : NoPathTlvs → ObjectBody} (found : readNoPath slice = .ok (make, rest)) :
    slice.octets.length = 4 + rest.octets.length ∧
      ∃ body : NoPathBody, make = fun tlvs => .noPath { body with tlvs } := by
  simp only [readNoPath, Reader.bind_ok, octet_ok, number_ok, pure_ok] at found
  obtain ⟨nature, _, first, _, _, ⟨-, second⟩, _, _, third, rfl, rfl⟩ := found
  refine ⟨?_, ⟨nature, _, TlvSet.empty⟩, rfl⟩
  rw [first.length, second.length, third.length, length_beOctets]
  dsimp only [List.length_cons, List.length_nil]
  omega

theorem readLspa_octets {body : LspaBody} (behind : Behind slice (fixedPart (.lspa body)) rest) :
    readLspa slice = .ok (fun tlvs => .lspa { body with tlvs }, rest) := by
  obtain ⟨_, front, behind⟩ := behind_append_iff.mp behind
  obtain ⟨_, front, includeAll⟩ := behind_append_iff.mp front
  obtain ⟨_, excludeAny, includeAny⟩ := behind_append_iff.mp front
  obtain ⟨_, setup, behind⟩ := behind_cons_iff.mp behind
  obtain ⟨_, holding, behind⟩ := behind_cons_iff.mp behind
  obtain ⟨_, flags, reserved⟩ := behind_cons_iff.mp behind
  simp only [readLspa, Reader.bind_ok, octet_ok, word32_ok, pure_ok]
  refine ⟨_, _, excludeAny, _, _, includeAny, _, _, includeAll, _, _, setup, _, _, holding, _, _, flags,
    0, _, reserved, ?_, rfl⟩
  rw [testBit_bitsOctet (by simp)]
  rfl

theorem lspa_of_read {make : VendorTlvs → ObjectBody} (found : readLspa slice = .ok (make, rest)) :
    slice.octets.length = 16 + rest.octets.length ∧
      ∃ body : LspaBody, make = fun tlvs => .lspa { body with tlvs } := by
  simp only [readLspa, Reader.bind_ok, octet_ok, word32_ok, pure_ok] at found
  obtain ⟨excludeAny, _, a, includeAny, _, b, includeAll, _, c, setup, _, d, holding, _, e, _, _, f, _, _,
    g, rfl, rfl⟩ := found
  refine ⟨?_, ⟨excludeAny, includeAny, includeAll, setup, holding, _, TlvSet.empty⟩, rfl⟩
  rw [a.length, b.length, c.length, d.length, e.length, f.length, g.length, length_word32,
    length_word32, length_word32]
  dsimp only [List.length_cons, List.length_nil]
  omega

theorem readNotification_octets {body : NotificationBody}
    (behind : Behind slice (fixedPart (.notification body)) rest) :
    readNotification slice = .ok (fun tlvs => .notification { body with tlvs }, rest) := by
  have split (type value : UInt8) : [0, 0, type, value] = [0, 0] ++ ([type] ++ [value]) := rfl
  rw [fixedPart, split] at behind
  obtain ⟨_, reserved, back⟩ := behind_append_iff.mp behind
  obtain ⟨_, type, value⟩ := behind_append_iff.mp back
  simp only [readNotification, Reader.bind_ok, octet_ok, word16_ok, pure_ok]
  exact ⟨0, _, reserved, _, _, type, _, _, value, rfl, rfl⟩

theorem notification_of_read {make : NotificationTlvs → ObjectBody}
    (found : readNotification slice = .ok (make, rest)) :
    slice.octets.length = 4 + rest.octets.length ∧
      ∃ body : NotificationBody, make = fun tlvs => .notification { body with tlvs } := by
  simp only [readNotification, Reader.bind_ok, octet_ok, word16_ok, pure_ok] at found
  obtain ⟨_, _, a, type, _, b, value, _, c, rfl, rfl⟩ := found
  refine ⟨?_, ⟨type, value, TlvSet.empty⟩, rfl⟩
  rw [a.length, b.length, c.length, length_word16]
  dsimp only [List.length_cons, List.length_nil]
  omega

theorem readError_octets {body : ErrorBody} (behind : Behind slice (fixedPart (.error body)) rest) :
    readError slice = .ok (fun tlvs => .error { body with tlvs }, rest) := by
  have split (type value : UInt8) : [0, 0, type, value] = [0, 0] ++ ([type] ++ [value]) := rfl
  rw [fixedPart, split] at behind
  obtain ⟨_, reserved, back⟩ := behind_append_iff.mp behind
  obtain ⟨_, type, value⟩ := behind_append_iff.mp back
  simp only [readError, Reader.bind_ok, octet_ok, word16_ok, pure_ok]
  exact ⟨0, _, reserved, _, _, type, _, _, value, rfl, rfl⟩

theorem error_of_read {make : ErrorTlvs → ObjectBody} (found : readError slice = .ok (make, rest)) :
    slice.octets.length = 4 + rest.octets.length ∧
      ∃ body : ErrorBody, make = fun tlvs => .error { body with tlvs } := by
  simp only [readError, Reader.bind_ok, octet_ok, word16_ok, pure_ok] at found
  obtain ⟨_, _, a, type, _, b, value, _, c, rfl, rfl⟩ := found
  refine ⟨?_, ⟨type, value, TlvSet.empty⟩, rfl⟩
  rw [a.length, b.length, c.length, length_word16]
  dsimp only [List.length_cons, List.length_nil]
  omega

theorem readClose_octets {body : CloseBody} (behind : Behind slice (fixedPart (.close body)) rest) :
    readClose slice = .ok (fun tlvs => .close { body with tlvs }, rest) := by
  have split (reason : UInt8) : [0, 0, 0, reason] = [0, 0, 0] ++ [reason] := rfl
  rw [fixedPart, split] at behind
  obtain ⟨_, reserved, reason⟩ := behind_append_iff.mp behind
  simp only [readClose, Reader.bind_ok, octet_ok, take_ok, pure_ok]
  exact ⟨_, _, ⟨rfl, reserved⟩, _, _, reason, rfl, rfl⟩

theorem close_of_read {make : VendorTlvs → ObjectBody} (found : readClose slice = .ok (make, rest)) :
    slice.octets.length = 4 + rest.octets.length ∧
      ∃ body : CloseBody, make = fun tlvs => .close { body with tlvs } := by
  simp only [readClose, Reader.bind_ok, octet_ok, take_ok, pure_ok] at found
  obtain ⟨_, _, ⟨size, a⟩, reason, _, b, rfl, rfl⟩ := found
  refine ⟨?_, ⟨reason, TlvSet.empty⟩, rfl⟩
  rw [a.length, b.length, size]
  dsimp only [List.length_cons, List.length_nil]
  omega

theorem readMonitoring_octets {body : MonitoringBody}
    (behind : Behind slice (fixedPart (.monitoring body)) rest) :
    readMonitoring slice = .ok (fun tlvs => .monitoring { body with tlvs }, rest) := by
  obtain ⟨_, front, monitoringId⟩ := behind_append_iff.mp behind
  obtain ⟨_, reserved, flags⟩ := behind_cons_iff.mp front
  simp only [readMonitoring, Reader.bind_ok, octet_ok, number_ok, word32_ok, pure_ok]
  refine ⟨0, _, reserved, _, _, ⟨bitsValue_lt_of (by simp), flags⟩, _, _, monitoringId, ?_, rfl⟩
  simp only [testBit_bitsValue]
  rfl

theorem monitoring_of_read {make : VendorTlvs → ObjectBody}
    (found : readMonitoring slice = .ok (make, rest)) :
    slice.octets.length = 8 + rest.octets.length ∧
      ∃ body : MonitoringBody, make = fun tlvs => .monitoring { body with tlvs } := by
  simp only [readMonitoring, Reader.bind_ok, octet_ok, number_ok, word32_ok, pure_ok] at found
  obtain ⟨_, _, a, _, _, ⟨-, b⟩, monitoringId, _, c, rfl, rfl⟩ := found
  refine ⟨?_, ⟨_, _, _, _, _, monitoringId, TlvSet.empty⟩, rfl⟩
  rw [a.length, b.length, c.length, length_beOctets, length_word32]
  dsimp only [List.length_cons, List.length_nil]
  omega

theorem readObjectiveFunction_octets {body : ObjectiveFunctionBody}
    (behind : Behind slice (fixedPart (.objectiveFunction body)) rest) :
    readObjectiveFunction slice = .ok (fun tlvs => .objectiveFunction { body with tlvs }, rest) := by
  obtain ⟨_, code, reserved⟩ := behind_append_iff.mp behind
  simp only [readObjectiveFunction, Reader.bind_ok, word16_ok, pure_ok]
  exact ⟨_, _, code, 0, _, reserved, rfl, rfl⟩

theorem objectiveFunction_of_read {make : VendorTlvs → ObjectBody}
    (found : readObjectiveFunction slice = .ok (make, rest)) :
    slice.octets.length = 4 + rest.octets.length ∧
      ∃ body : ObjectiveFunctionBody, make = fun tlvs => .objectiveFunction { body with tlvs } := by
  simp only [readObjectiveFunction, Reader.bind_ok, word16_ok, pure_ok] at found
  obtain ⟨code, _, a, _, _, b, rfl, rfl⟩ := found
  refine ⟨?_, ⟨code, TlvSet.empty⟩, rfl⟩
  rw [a.length, b.length, length_word16, length_word16]
  omega

theorem readGlobalConstraints_octets {body : GlobalConstraintsBody}
    (behind : Behind slice (fixedPart (.globalConstraints body)) rest) :
    readGlobalConstraints slice = .ok (fun tlvs => .globalConstraints { body with tlvs }, rest) := by
  obtain ⟨_, first, behind⟩ := behind_cons_iff.mp behind
  obtain ⟨_, second, behind⟩ := behind_cons_iff.mp behind
  obtain ⟨_, third, fourth⟩ := behind_cons_iff.mp behind
  simp only [readGlobalConstraints, Reader.bind_ok, octet_ok, pure_ok]
  exact ⟨_, _, first, _, _, second, _, _, third, _, _, fourth, rfl, rfl⟩

theorem globalConstraints_of_read {make : VendorTlvs → ObjectBody}
    (found : readGlobalConstraints slice = .ok (make, rest)) :
    slice.octets.length = 4 + rest.octets.length ∧
      ∃ body : GlobalConstraintsBody, make = fun tlvs => .globalConstraints { body with tlvs } := by
  simp only [readGlobalConstraints, Reader.bind_ok, octet_ok, pure_ok] at found
  obtain ⟨hop, _, a, most, _, b, least, _, c, factor, _, d, rfl, rfl⟩ := found
  refine ⟨?_, ⟨hop, most, least, factor, TlvSet.empty⟩, rfl⟩
  rw [a.length, b.length, c.length, d.length]
  dsimp only [List.length_cons, List.length_nil]
  omega

theorem lspCheck {body : LspBody} : check (.lsp body) = none ↔ body.plspId.toNat ≤ 0xFFFFF := by
  simp only [check, UInt32.lt_iff_toNat_lt]
  split
  · next large =>
    simp only [reduceCtorEq, false_iff]
    exact Nat.not_le_of_lt large
  · next small => exact iff_of_true rfl (Nat.le_of_not_lt small)

theorem lspOfWord_word (body : LspBody) :
    lspOfWord body.word = .ok fun tlvs => .lsp { body with tlvs } := by
  have createBound : body.create.toNat ≤ 1 := Nat.le_of_lt_succ (Bool.toNat_lt _)
  have statusBound : (CodePoint.code body.operational).toNat < 8 := by
    cases body.operational <;> decide
  generalize bits_eq : [body.delegate, body.sync, body.remove, body.administrative] = bits
  have bitsBound : bitsValue bits < 2 ^ 4 := by
    rw [← bits_eq]
    exact bitsValue_lt _
  have word : body.word = 2 ^ 4 * (2 ^ 3 * (body.plspId.toNat * 32 + body.create.toNat) +
      (CodePoint.code body.operational).toNat) + bitsValue bits := by
    rw [LspBody.word, bits_eq]
    omega
  have status : UInt8.ofNat (body.word / 16 % 8) = CodePoint.code body.operational := by
    have middle : body.word / 16 % 8 = (CodePoint.code body.operational).toNat := by omega
    rw [middle, UInt8.ofNat_toNat]
  have number : UInt32.ofNat (body.word / 4096) = body.plspId := by
    have high : body.word / 4096 = body.plspId.toNat := by omega
    rw [high, UInt32.ofNat_toNat]
  have flag (i : Nat) (low : i < 4) : body.word.testBit i = bits.getD i false := by
    rw [word, Nat.testBit_two_pow_mul_add _ bitsBound, if_pos low, testBit_bitsValue]
  have create : body.word.testBit 7 = body.create := by
    rw [Nat.testBit_eq_decide_div_mod_eq]
    have bit : body.word / 2 ^ 7 % 2 = body.create.toNat := by omega
    rw [bit]
    cases body.create <;> rfl
  simp only [lspOfWord]
  rw [status, CodePoint.ofCode?_code]
  dsimp only
  rw [number, create, flag 0 (by decide), flag 1 (by decide), flag 2 (by decide), flag 3 (by decide),
    ← bits_eq]
  rfl

theorem readLsp_octets {body : LspBody} (checked : check (.lsp body) = none)
    (behind : Behind slice (fixedPart (.lsp body)) rest) :
    ((number 4).convert lspOfWord : Reader ObjectReadError _) slice =
      .ok (fun tlvs => .lsp { body with tlvs }, rest) := by
  have small := lspCheck.mp checked
  have createBound : body.create.toNat ≤ 1 := Nat.le_of_lt_succ (Bool.toNat_lt _)
  have statusBound : (CodePoint.code body.operational).toNat < 8 := by
    cases body.operational <;> decide
  have bitsBound := bitsValue_lt [body.delegate, body.sync, body.remove, body.administrative]
  dsimp only [List.length_cons, List.length_nil] at bitsBound
  rw [convert_ok]
  refine ⟨_, number_ok.mpr ⟨?_, behind⟩, lspOfWord_word body⟩
  rw [LspBody.word]
  omega

theorem lsp_of_read {make : LspTlvs → ObjectBody}
    (found : ((number 4).convert lspOfWord : Reader ObjectReadError _) slice = .ok (make, rest)) :
    slice.octets.length = 4 + rest.octets.length ∧ ∃ body : LspBody,
      body.plspId.toNat ≤ 0xFFFFF ∧ make = fun tlvs => .lsp { body with tlvs } := by
  obtain ⟨word, front, state⟩ := convert_ok.mp found
  obtain ⟨bound, behind⟩ := number_ok.mp front
  simp only [lspOfWord] at state
  split at state
  · cases state
  · next operational _ =>
    cases state
    refine ⟨by rw [behind.length, length_beOctets],
      ⟨UInt32.ofNat (word / 4096), _, _, _, _, operational, _, TlvSet.empty⟩, ?_, rfl⟩
    rw [UInt32.toNat_ofNat_of_lt' (Nat.lt_of_le_of_lt (Nat.div_le_self ..) bound)]
    omega

theorem readSrp_octets {body : SrpBody} (behind : Behind slice (fixedPart (.srp body)) rest) :
    readSrp slice = .ok (fun tlvs => .srp { body with tlvs }, rest) := by
  obtain ⟨_, flags, srpId⟩ := behind_append_iff.mp behind
  simp only [readSrp, Reader.bind_ok, number_ok, word32_ok, pure_ok]
  refine ⟨_, _, ⟨bitsValue_lt_of (by simp), flags⟩, _, _, srpId, ?_, rfl⟩
  simp only [testBit_bitsValue]
  rfl

theorem srp_of_read {make : SrpTlvs → ObjectBody} (found : readSrp slice = .ok (make, rest)) :
    slice.octets.length = 8 + rest.octets.length ∧
      ∃ body : SrpBody, make = fun tlvs => .srp { body with tlvs } := by
  simp only [readSrp, Reader.bind_ok, number_ok, word32_ok, pure_ok] at found
  obtain ⟨_, _, ⟨-, a⟩, srpId, _, b, rfl, rfl⟩ := found
  refine ⟨?_, ⟨_, srpId, TlvSet.empty⟩, rfl⟩
  rw [a.length, b.length, length_beOctets, length_word32]
  omega

section Association
variable {α : Type} {address : Reader ObjectReadError α} {encode : α → List UInt8}

theorem readAssociation_octets
    (address_ok : ∀ {slice rest value},
      address slice = .ok (value, rest) ↔ Behind slice (encode value) rest)
    {body : AssociationBody α} (behind : Behind slice (body.octets encode) rest) :
    readAssociation address slice = .ok (fun tlvs => { body with tlvs }, rest) := by
  obtain ⟨_, front, source⟩ := behind_append_iff.mp behind
  obtain ⟨_, front, number⟩ := behind_append_iff.mp front
  obtain ⟨_, front, type⟩ := behind_append_iff.mp front
  obtain ⟨_, reserved, flags⟩ := behind_append_iff.mp front
  simp only [readAssociation, Reader.bind_ok, number_ok, word16_ok, address_ok, pure_ok]
  refine ⟨0, _, reserved, _, _, ⟨bitsValue_lt_of (by simp), flags⟩, _, _, type, _, _, number, _, _, source,
    ?_, rfl⟩
  simp only [testBit_bitsValue]
  rfl

theorem association_of_read {width : Nat} {make : VendorTlvs → AssociationBody α}
    (width_of_address : ∀ {slice rest value}, address slice = .ok (value, rest) →
      slice.octets.length = width + rest.octets.length)
    (found : readAssociation address slice = .ok (make, rest)) :
    slice.octets.length = 8 + width + rest.octets.length ∧
      ∃ body : AssociationBody α, make = fun tlvs => { body with tlvs } := by
  simp only [readAssociation, Reader.bind_ok, number_ok, word16_ok, pure_ok] at found
  obtain ⟨_, _, a, _, _, ⟨-, b⟩, type, _, c, number, _, d, source, _, e, rfl, rfl⟩ := found
  refine ⟨?_, ⟨_, type, number, source, TlvSet.empty⟩, rfl⟩
  rw [a.length, b.length, c.length, d.length, width_of_address e, length_beOctets, length_word16,
    length_word16, length_word16]
  omega

theorem wrapAssociation_ok {wrap : AssociationBody α → ObjectBody} {make : VendorTlvs → ObjectBody} :
    (do
        let body ← readAssociation address
        pure fun tlvs => wrap (body tlvs) : Reader ObjectReadError _) slice = .ok (make, rest) ↔
      ∃ body, readAssociation address slice = .ok (body, rest) ∧ make = fun tlvs => wrap (body tlvs) := by
  simp only [Reader.bind_ok, pure_ok]
  constructor
  · rintro ⟨body, _, found, rfl, rfl⟩
    exact ⟨body, found, rfl⟩
  · rintro ⟨body, found, rfl⟩
    exact ⟨body, _, found, rfl, rfl⟩

end Association

theorem readAssociationIpv4_octets (body : AssociationBody Ipv4)
    (behind : Behind slice (fixedPart (.associationIpv4 body)) rest) :
    (do
        let body ← readAssociation Ipv4.read
        pure fun tlvs => .associationIpv4 (body tlvs) :
        Reader ObjectReadError (VendorTlvs → ObjectBody)) slice =
      .ok (fun tlvs => .associationIpv4 { body with tlvs }, rest) := by
  rw [fixedPart] at behind
  exact wrapAssociation_ok.mpr ⟨_, readAssociation_octets ipv4_ok behind, rfl⟩

theorem readAssociationIpv6_octets (body : AssociationBody Ipv6)
    (behind : Behind slice (fixedPart (.associationIpv6 body)) rest) :
    (do
        let body ← readAssociation Ipv6.read
        pure fun tlvs => .associationIpv6 (body tlvs) :
        Reader ObjectReadError (VendorTlvs → ObjectBody)) slice =
      .ok (fun tlvs => .associationIpv6 { body with tlvs }, rest) := by
  rw [fixedPart] at behind
  exact wrapAssociation_ok.mpr ⟨_, readAssociation_octets ipv6_ok behind, rfl⟩

end RouteWire.Pcep.ObjectBody
