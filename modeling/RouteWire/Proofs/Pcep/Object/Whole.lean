import RouteWire.Pcep.Object.Decode
import RouteWire.Pcep.Object.Encode
import RouteWire.Proofs.Reading
/-!
Bodies that are all fixed part, written and read.

Main statements: `readSvec_octets`, `svec_of_read` and their companions.
-/
namespace RouteWire.Pcep.ObjectBody
open Reader
variable {slice rest : Slice}

theorem readEndPointsIpv4_octets {source destination : Ipv4}
    (behind : Behind slice (fixedPart (.endPointsIpv4 source destination)) rest) :
    readEndPointsIpv4 slice = .ok (.endPointsIpv4 source destination, rest) := by
  obtain ⟨_, first, second⟩ := behind_append_iff.mp behind
  simp only [readEndPointsIpv4, Reader.bind_ok, ipv4_ok, pure_ok]
  exact ⟨_, _, first, _, _, second, rfl, rfl⟩

theorem endPointsIpv4_of_read {body : ObjectBody} (found : readEndPointsIpv4 slice = .ok (body, rest)) :
    ∃ source destination, body = .endPointsIpv4 source destination := by
  simp only [readEndPointsIpv4, Reader.bind_ok, pure_ok] at found
  obtain ⟨_, _, _, _, _, _, rfl, -⟩ := found
  exact ⟨_, _, rfl⟩

theorem readEndPointsIpv6_octets {source destination : Ipv6}
    (behind : Behind slice (fixedPart (.endPointsIpv6 source destination)) rest) :
    readEndPointsIpv6 slice = .ok (.endPointsIpv6 source destination, rest) := by
  obtain ⟨_, first, second⟩ := behind_append_iff.mp behind
  simp only [readEndPointsIpv6, Reader.bind_ok, ipv6_ok, pure_ok]
  exact ⟨_, _, first, _, _, second, rfl, rfl⟩

theorem endPointsIpv6_of_read {body : ObjectBody} (found : readEndPointsIpv6 slice = .ok (body, rest)) :
    ∃ source destination, body = .endPointsIpv6 source destination := by
  simp only [readEndPointsIpv6, Reader.bind_ok, pure_ok] at found
  obtain ⟨_, _, _, _, _, _, rfl, -⟩ := found
  exact ⟨_, _, rfl⟩

theorem readBinary32_ok {number : Binary32} :
    readBinary32 slice = .ok (number, rest) ↔ Behind slice number.octets rest := by
  simp only [readBinary32, Reader.bind_ok, word32_ok, pure_ok]
  constructor
  · rintro ⟨_, _, behind, rfl, rfl⟩
    exact behind
  · intro behind
    exact ⟨_, _, behind, rfl, rfl⟩

theorem readOne_ok {α : Type} {reader : Reader ObjectReadError α} {make : α → ObjectBody}
    {body : ObjectBody} :
    readOne reader make slice = .ok (body, rest) ↔
      ∃ value, reader slice = .ok (value, rest) ∧ body = make value := by
  simp only [readOne, Reader.bind_ok, pure_ok]
  constructor
  · rintro ⟨value, _, found, rfl, rfl⟩
    exact ⟨value, found, rfl⟩
  · rintro ⟨value, found, rfl⟩
    exact ⟨value, _, found, rfl, rfl⟩

theorem readMetric_octets {body : MetricBody} (behind : Behind slice (fixedPart (.metric body)) rest) :
    readMetric slice = .ok (.metric body, rest) := by
  obtain ⟨_, front, value⟩ := behind_append_iff.mp behind
  have split (flags type : UInt8) : [0, 0, flags, type] = [0, 0] ++ ([flags] ++ [type]) := rfl
  rw [split] at front
  obtain ⟨_, reserved, front⟩ := behind_append_iff.mp front
  obtain ⟨_, flags, type⟩ := behind_append_iff.mp front
  simp only [readMetric, Reader.bind_ok, octet_ok, word16_ok, readBinary32_ok, pure_ok]
  refine ⟨0, _, reserved, _, _, flags, _, _, type, _, _, value, ?_, rfl⟩
  rw [testBit_bitsOctet (by simp), testBit_bitsOctet (by simp)]
  rfl

theorem metric_of_read {body : ObjectBody} (found : readMetric slice = .ok (body, rest)) :
    ∃ value, body = .metric value := by
  simp only [readMetric, Reader.bind_ok, pure_ok] at found
  obtain ⟨_, _, _, _, _, _, _, _, _, _, _, _, rfl, -⟩ := found
  exact ⟨_, rfl⟩

theorem readSvec_octets {body : SvecBody} (behind : Behind slice (fixedPart (.svec body)) rest)
    (nothing : rest.octets = []) : ∃ after, readSvec slice = .ok (.svec body, after) := by
  rw [fixedPart, List.cons_append] at behind
  obtain ⟨_, reserved, behind⟩ := behind_cons_iff.mp behind
  obtain ⟨mid, flags, ids⟩ := behind_append_iff.mp behind
  have whole := ids.1
  rw [nothing, List.append_nil] at whole
  have found : ∃ after, (Reader.many 4 fun octets => UInt32.ofNat (beValue octets)) mid =
      (.ok (body.requestIds, after) : Except (Failure ObjectReadError) _) :=
    many_flatMap (by decide) length_word32 ofNat_beValue_word32 whole
  obtain ⟨after, found⟩ := found
  have bound : bitsValue [body.linkDiverse, body.nodeDiverse, body.srlgDiverse] < 256 ^ 3 :=
    Nat.lt_of_lt_of_le (bitsValue_lt _) (by simp)
  simp only [readSvec, Reader.bind_ok, octet_ok, number_ok, pure_ok]
  refine ⟨after, 0, _, reserved, _, _, ⟨bound, flags⟩, _, _, found, ?_, rfl⟩
  simp only [testBit_bitsValue]
  rfl

theorem svec_of_read {body : ObjectBody} (found : readSvec slice = .ok (body, rest)) :
    ∃ value : SvecBody, body = .svec value ∧
      4 + 4 * value.requestIds.length ≤ slice.octets.length := by
  simp only [readSvec, Reader.bind_ok, octet_ok, number_ok, pure_ok] at found
  obtain ⟨_, _, first, _, _, ⟨-, second⟩, ids, _, found, rfl, rfl⟩ := found
  refine ⟨_, rfl, ?_⟩
  have most := length_of_many_le found
  rw [first.length, second.length, length_beOctets]
  dsimp only [List.length_cons, List.length_nil]
  omega

theorem readLoadBalancing_octets {body : LoadBalancingBody}
    (behind : Behind slice (fixedPart (.loadBalancing body)) rest) :
    readLoadBalancing slice = .ok (.loadBalancing body, rest) := by
  obtain ⟨_, front, bandwidth⟩ := behind_append_iff.mp behind
  have split (most : UInt8) : [0, 0, 0, most] = [0, 0, 0] ++ [most] := rfl
  rw [split] at front
  obtain ⟨_, reserved, most⟩ := behind_append_iff.mp front
  simp only [readLoadBalancing, Reader.bind_ok, take_ok, octet_ok, readBinary32_ok, pure_ok]
  exact ⟨_, _, ⟨rfl, reserved⟩, _, _, most, _, _, bandwidth, rfl, rfl⟩

theorem loadBalancing_of_read {body : ObjectBody} (found : readLoadBalancing slice = .ok (body, rest)) :
    ∃ value, body = .loadBalancing value := by
  simp only [readLoadBalancing, Reader.bind_ok, pure_ok] at found
  obtain ⟨_, _, _, _, _, _, _, _, _, rfl, -⟩ := found
  exact ⟨_, rfl⟩

theorem beValue_lastOfFour (last : UInt8) : beValue [0, 0, 0, last] = last.toNat := by
  simp [beValue]

theorem readClassType_octets {classType : UInt8}
    (behind : Behind slice (fixedPart (.classType classType)) rest) :
    readClassType slice = .ok (.classType classType, rest) := by
  have length : [0, 0, 0, classType].length = 4 := rfl
  simp only [readClassType, Reader.bind_ok, number_ok, pure_ok]
  refine ⟨_, _, ⟨beValue_lt_pow length, ?_⟩, ?_, rfl⟩
  · rwa [beOctets_beValue length]
  · rw [beValue_lastOfFour, UInt8.ofNat_toNat]

theorem classType_of_read {body : ObjectBody} (found : readClassType slice = .ok (body, rest)) :
    ∃ classType, body = .classType classType ∧
      classType.toNat ≤ beValue (slice.octets.take 4) := by
  simp only [readClassType, Reader.bind_ok, number_ok, pure_ok] at found
  obtain ⟨value, _, ⟨bound, behind⟩, rfl, rfl⟩ := found
  refine ⟨_, rfl, ?_⟩
  rw [← numeralCount_eq] at bound
  rw [behind.1, List.take_left' (length_beOctets 4 value), beValue_beOctets_of_lt bound,
    UInt8.toNat_ofNat']
  exact Nat.mod_le ..

theorem readProcessingTime_octets {body : ProcessingTimeBody}
    (behind : Behind slice (fixedPart (.processingTime body)) rest) :
    readProcessingTime slice = .ok (.processingTime body, rest) := by
  obtain ⟨_, front, variance⟩ := behind_append_iff.mp behind
  obtain ⟨_, front, average⟩ := behind_append_iff.mp front
  obtain ⟨_, front, max⟩ := behind_append_iff.mp front
  obtain ⟨_, front, min⟩ := behind_append_iff.mp front
  obtain ⟨_, front, current⟩ := behind_append_iff.mp front
  obtain ⟨_, reserved, flags⟩ := behind_append_iff.mp front
  have bound : bitsValue [body.estimated] < 256 ^ 2 :=
    Nat.lt_of_lt_of_le (bitsValue_lt _) (by simp)
  simp only [readProcessingTime, Reader.bind_ok, number_ok, word16_ok, word32_ok, pure_ok]
  refine ⟨0, _, reserved, _, _, ⟨bound, flags⟩, _, _, current, _, _, min, _, _, max, _, _, average, _, _,
    variance, ?_, rfl⟩
  simp only [testBit_bitsValue]
  rfl

theorem processingTime_of_read {body : ObjectBody} (found : readProcessingTime slice = .ok (body, rest)) :
    ∃ value, body = .processingTime value := by
  simp only [readProcessingTime, Reader.bind_ok, pure_ok] at found
  obtain ⟨_, _, _, _, _, _, _, _, _, _, _, _, _, _, _, _, _, _, _, _, _, rfl, -⟩ := found
  exact ⟨_, rfl⟩

theorem readOverload_octets {duration : UInt16}
    (behind : Behind slice (fixedPart (.overload duration)) rest) :
    readOverload slice = .ok (.overload duration, rest) := by
  obtain ⟨_, reserved, value⟩ := behind_append_iff.mp behind
  simp only [readOverload, Reader.bind_ok, word16_ok, pure_ok]
  exact ⟨0, _, reserved, _, _, value, rfl, rfl⟩

theorem overload_of_read {body : ObjectBody} (found : readOverload slice = .ok (body, rest)) :
    ∃ duration, body = .overload duration := by
  simp only [readOverload, Reader.bind_ok, pure_ok] at found
  obtain ⟨_, _, _, _, _, _, rfl, -⟩ := found
  exact ⟨_, rfl⟩

section Destinations
variable {α : Type} {encode : α → List UInt8} {decode : List UInt8 → α} {width : Nat}
  {kind : ObjectKind} {make : List α → ObjectBody}

theorem readDestinations_flatMap {destinations : List α} (positive : 0 < width)
    (length : ∀ address, (encode address).length = width)
    (inverse : ∀ address, decode (encode address) = address)
    (behind : Behind slice (destinations.flatMap encode) rest) (nothing : rest.octets = []) :
    ∃ after, (do
        wholeElements kind width
        readOne (Reader.many width decode) make) slice = .ok (make destinations, after) := by
  have whole := behind.1
  rw [nothing, List.append_nil] at whole
  obtain ⟨after, found⟩ := many_flatMap (ε := ObjectReadError) positive length inverse whole
  have multiple : slice.octets.length % width = 0 := by
    rw [whole, length_flatMap_of_width length, Nat.mul_mod_right]
  exact ⟨after, Reader.bind_ok.mpr ⟨(), _, multipleOf_ok.mpr ⟨multiple, rfl⟩,
    readOne_ok.mpr ⟨_, found, rfl⟩⟩⟩

theorem destinations_of_read {body : ObjectBody} (positive : 0 < width)
    (least : width ≤ slice.octets.length)
    (found : (do
        wholeElements kind width
        readOne (Reader.many width decode) make) slice = .ok (body, rest)) :
    ∃ destinations, body = make destinations ∧ destinations ≠ [] ∧
      width * destinations.length ≤ slice.octets.length := by
  obtain ⟨_, _, multiple, one⟩ := Reader.bind_ok.mp found
  obtain ⟨-, rfl⟩ := multipleOf_ok.mp multiple
  obtain ⟨destinations, many, rfl⟩ := readOne_ok.mp one
  refine ⟨destinations, rfl, ?_, length_of_many_le many⟩
  have some : 0 < destinations.length := by
    rw [length_of_many many]
    exact Nat.div_pos least positive
  exact List.length_pos_iff.mp some

end Destinations
end RouteWire.Pcep.ObjectBody
