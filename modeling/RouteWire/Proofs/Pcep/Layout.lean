import RouteWire.Proofs.Pcep.Message
/-!
Where things stand in what is written. An item says something about a place in octets, such as a length
and what it counts. The items of a value follow the value, part by part, from the offset on at which it
is to stand, and never the octets.

Main statements: `HoldsAt.behind`, `holdsAt_endToEnd`, and `Tlv.holdsAt_scriptAll` with its companions
for records and routes.
-/
namespace RouteWire.Pcep
variable {whole octets front back : List UInt8} {offset : Nat} {registry : Registry}

def StandsAt (whole : List UInt8) (offset : Nat) (octets : List UInt8) : Prop :=
  octets <+: whole.drop offset

theorem standsAt_append :
    StandsAt whole offset (front ++ back) ↔
      StandsAt whole offset front ∧ StandsAt whole (offset + front.length) back := by
  rw [StandsAt, StandsAt, StandsAt, ← List.drop_drop]
  constructor
  · rintro ⟨others, found⟩
    rw [← found, List.append_assoc, List.drop_left]
    exact ⟨List.prefix_append .., List.prefix_append ..⟩
  · rintro ⟨⟨others, found⟩, second⟩
    rw [← found, List.drop_left] at second
    rw [← found]
    exact (List.prefix_append_right_inj front).mpr second

theorem standsAt_zero (octets : List UInt8) : StandsAt octets 0 octets := List.prefix_refl _

section Items
variable {π : Type} {holds : List UInt8 → π → Prop}

/-- Wherever octets stand behind whole groups of four, the items for that place hold of the whole. -/
def HoldsAt (holds : List UInt8 → π → Prop) (octets : List UInt8) (items : Nat → List π) : Prop :=
  ∀ ⦃whole : List UInt8⦄ ⦃offset : Nat⦄, offset % 4 = 0 → StandsAt whole offset octets →
    ∀ item ∈ items offset, holds whole item

theorem holdsAt_nil : HoldsAt holds octets fun _ => [] := fun _ _ _ _ => List.forall_mem_nil _

namespace HoldsAt
variable {item : Nat → π} {items others : Nat → List π}

theorem append (here : HoldsAt holds octets items) (also : HoldsAt holds octets others) :
    HoldsAt holds octets fun offset => items offset ++ others offset := fun _ _ aligned stands =>
  List.forall_mem_append.mpr ⟨here aligned stands, also aligned stands⟩

theorem cons (here : HoldsAt holds octets fun offset => [item offset])
    (also : HoldsAt holds octets items) :
    HoldsAt holds octets fun offset => item offset :: items offset := here.append also

theorem ahead (here : HoldsAt holds front items) (back : List UInt8) :
    HoldsAt holds (front ++ back) items := fun _ _ aligned stands =>
  here aligned (standsAt_append.mp stands).1

theorem behind {before : Nat} (here : HoldsAt holds back items) (length : front.length = before)
    (groups : before % 4 = 0) :
    HoldsAt holds (front ++ back) fun offset => items (offset + before) := by
  intro whole offset aligned stands
  refine here (by omega) ?_
  rw [← length]
  exact (standsAt_append.mp stands).2

end HoldsAt

section EndToEnd
variable {α : Type} (encode : α → List UInt8) (items : α → Nat → List π)

def endToEnd : List α → (offset : Nat) → List π
  | [], _ => []
  | element :: elements, offset =>
    items element offset ++ endToEnd elements (offset + (encode element).length)

variable {encode items}

theorem holdsAt_endToEnd {elements : List α}
    (each : ∀ element ∈ elements,
      (encode element).length % 4 = 0 ∧ HoldsAt holds (encode element) (items element)) :
    HoldsAt holds (elements.flatMap encode) (endToEnd encode items elements) := by
  induction elements with
  | nil => exact holdsAt_nil
  | cons element elements ih =>
    obtain ⟨⟨groups, first⟩, others⟩ := List.forall_mem_cons.mp each
    intro whole offset aligned stands
    rw [List.flatMap_cons, standsAt_append] at stands
    exact List.forall_mem_append.mpr ⟨first aligned stands.1, ih others (by omega) stands.2⟩

theorem exists_subset_endToEnd {elements : List α} {element : α} (member : element ∈ elements)
    (offset : Nat) : ∃ place, items element place ⊆ endToEnd encode items elements offset := by
  induction elements generalizing offset with
  | nil => cases member
  | cons first others ih =>
    rcases List.mem_cons.mp member with rfl | later
    · exact ⟨offset, List.subset_append_left ..⟩
    · obtain ⟨place, found⟩ := ih later (offset + (encode first).length)
      exact ⟨place, List.subset_append_of_subset_right _ found⟩

end EndToEnd

/-! ## Records and TLVs -/

namespace VendorInformation

def recordItems (items : VendorSubTlv → Nat → List π) (information : VendorInformation)
    (offset : Nat) : List π :=
  match information.payload with
  | .subTlvs records =>
    endToEnd (fun record => tlvOctets record.code record.value) items records (offset + 4)
  | .unstructured _ => []

theorem holdsAt_recordItems {information : VendorInformation} {items : VendorSubTlv → Nat → List π}
    (each : ∀ record, record.value.length ≤ 65535 →
      HoldsAt holds (tlvOctets record.code record.value) (items record))
    (written : information.script.toExcept = .ok octets) :
    HoldsAt holds octets (information.recordItems items) := by
  obtain ⟨contents, rfl, payload⟩ := Tlv.vendorScript_ok.mp written
  intro whole offset aligned stands
  rw [recordItems]
  cases found : information.payload with
  | unstructured _ => exact List.forall_mem_nil _
  | subTlvs records =>
    rw [found] at payload
    obtain ⟨fits, rfl⟩ := payload
    refine HoldsAt.behind (holdsAt_endToEnd fun record member => ⟨?_, each record (fits record member)⟩)
      (length_word32 _) (by decide) aligned stands
    rw [length_tlvOctets]
    exact padded_mod _

end VendorInformation

namespace PathSetupTypeCapability

def recordItems (items : SetupTypeSubTlv → Nat → List π) (capability : PathSetupTypeCapability)
    (offset : Nat) : List π :=
  endToEnd (fun record : SetupTypeSubTlv => tlvOctets record.code record.value) items
    capability.subTlvs (offset + (4 + padded capability.types.length))

theorem holdsAt_recordItems {capability : PathSetupTypeCapability}
    {items : SetupTypeSubTlv → Nat → List π}
    (each : ∀ record : SetupTypeSubTlv, record.value.length ≤ 65535 →
      HoldsAt holds (tlvOctets record.code record.value) (items record))
    (checked : capability.check = none) :
    HoldsAt holds capability.octets (capability.recordItems items) := by
  obtain ⟨-, fits⟩ := Tlv.pathSetupTypeCheck_eq_none.mp checked
  have groups := padded_mod capability.types.length
  refine HoldsAt.behind (holdsAt_endToEnd fun record member => ⟨?_, each record (fits record member)⟩)
    ?_ (by omega)
  · rw [length_tlvOctets]
    exact padded_mod _
  · rw [List.length_append, length_padOctets]
    rfl

end PathSetupTypeCapability

namespace Tlv
variable {tlv : Tlv}

def items (registry : Registry) (header : Nat → π) (inside : Nat → List π) (tlv : Tlv)
    (offset : Nat) : List π :=
  if tlv.isRegistered registry then header offset :: inside (offset + 4) else []

theorem holdsAt_items {header : Nat → π} {inside : Nat → List π}
    (each : ∀ value, tlv.check = none → tlv.valueLength ≤ 65535 → value.length = tlv.valueLength →
      tlv.valueScript.toExcept = .ok value →
        (HoldsAt holds (tlvOctets tlv.code value) fun offset => [header offset]) ∧
          HoldsAt holds value inside)
    (written : (tlv.script registry).failure = none) :
    HoldsAt holds (tlv.script registry).octets (tlv.items registry header inside) := by
  cases registered : tlv.isRegistered registry with
  | false =>
    intro whole offset aligned stands
    rw [items, registered]
    exact List.forall_mem_nil _
  | true =>
    obtain ⟨checked, fits, value, found, parts⟩ :=
      (script_ok registered).mp (Script.toExcept_of_failure written)
    obtain ⟨here, within⟩ := each value checked fits (length_valueScript found) found
    have front : (word16 tlv.code ++ beOctets 2 value.length).length = 4 := by
      rw [List.length_append, length_word16, length_beOctets]
    intro whole offset aligned stands
    rw [items, if_pos registered]
    rw [parts] at stands
    exact here.cons ((within.ahead _).behind front (by decide)) aligned stands

def itemsOfAll (registry : Registry) (items : Tlv → Nat → List π) : List Tlv → (offset : Nat) → List π :=
  endToEnd (fun tlv => (tlv.script registry).octets) items

theorem holdsAt_scriptAll {tlvs : List Tlv} {items : Tlv → Nat → List π}
    (each : ∀ tlv : Tlv, (tlv.script registry).failure = none →
      HoldsAt holds (tlv.script registry).octets (items tlv))
    (written : (scriptAll registry tlvs).toExcept = .ok octets) :
    HoldsAt holds octets (itemsOfAll registry items tlvs) := by
  obtain ⟨runs, rfl⟩ := Script.concat_map_ok.mp written
  refine holdsAt_endToEnd fun tlv member => ⟨?_, each tlv (runs tlv member)⟩
  rw [length_script (runs tlv member)]
  exact length_mod registry tlv

end Tlv

/-! ## Routes -/

namespace RroSubobject
variable {subobject : RroSubobject}

def items (registry : Registry) (item : Nat → π) (subobject : RroSubobject) (offset : Nat) : List π :=
  if subobject.isRegistered registry then [item offset] else []

theorem holdsAt_items {item : Nat → π}
    (each : ∀ contents, 2 + subobject.valueLength ≤ 255 → contents.length = subobject.valueLength →
      (subobject.script registry).octets =
        Subobject.header false subobject.code (2 + subobject.valueLength) ++ contents →
          HoldsAt holds (subobject.script registry).octets fun offset => [item offset])
    (written : (subobject.script registry).failure = none) :
    HoldsAt holds (subobject.script registry).octets (subobject.items registry item) := by
  intro whole offset aligned stands
  rw [items]
  split
  · next registered =>
    obtain ⟨-, fits, contents, value, parts⟩ :=
      (script_ok registered).mp (Script.toExcept_of_failure written)
    exact each contents fits (length_valueScript value) parts aligned stands
  · exact List.forall_mem_nil _

end RroSubobject

namespace Subobject

def eroItems (registry : Registry) (items : EroSubobject → Nat → List π) :
    List EroSubobject → (offset : Nat) → List π :=
  endToEnd (fun subobject => (subobject.script registry).octets) items

def xroItems (registry : Registry) (items : XroSubobject → Nat → List π) :
    List XroSubobject → (offset : Nat) → List π :=
  endToEnd (fun subobject => (subobject.script registry).octets) items

def rroItems (registry : Registry) (items : RroSubobject → Nat → List π) :
    List RroSubobject → (offset : Nat) → List π :=
  endToEnd (fun subobject => (subobject.script registry).octets) items

theorem holdsAt_eroScript {route : List EroSubobject} {items : EroSubobject → Nat → List π}
    (each : ∀ subobject : EroSubobject, (subobject.script registry).failure = none →
      HoldsAt holds (subobject.script registry).octets (items subobject))
    (written : (eroScript registry route).toExcept = .ok octets) :
    HoldsAt holds octets (eroItems registry items route) := by
  obtain ⟨-, runs, rfl⟩ := routeScript_ok.mp written
  refine holdsAt_endToEnd fun subobject member => ⟨?_, each subobject (runs _ member)⟩
  rw [EroSubobject.length_script (runs _ member)]
  exact EroSubobject.length_mod (runs _ member)

theorem holdsAt_xroScript {route : List XroSubobject} {items : XroSubobject → Nat → List π}
    (each : ∀ subobject : XroSubobject, (subobject.script registry).failure = none →
      HoldsAt holds (subobject.script registry).octets (items subobject))
    (written : (xroScript registry route).toExcept = .ok octets) :
    HoldsAt holds octets (xroItems registry items route) := by
  obtain ⟨-, runs, rfl⟩ := routeScript_ok.mp written
  refine holdsAt_endToEnd fun subobject member => ⟨?_, each subobject (runs _ member)⟩
  rw [XroSubobject.length_script (runs _ member)]
  exact subobject.length_mod

theorem holdsAt_rroScript {route : List RroSubobject} {items : RroSubobject → Nat → List π}
    (each : ∀ subobject : RroSubobject, (subobject.script registry).failure = none →
      HoldsAt holds (subobject.script registry).octets (items subobject))
    (written : (rroScript registry route).toExcept = .ok octets) :
    HoldsAt holds octets (rroItems registry items route) := by
  obtain ⟨runs, rfl⟩ := Script.concat_map_ok.mp written
  refine holdsAt_endToEnd fun subobject member => ⟨?_, each subobject (runs _ member)⟩
  rw [RroSubobject.length_script (runs _ member)]
  exact RroSubobject.length_mod (runs _ member)

end Subobject

/-! ## Bodies -/

structure PartItems (π : Type) where
  tlv : Tlv → (offset : Nat) → List π
  vendorSubTlv : VendorSubTlv → (offset : Nat) → List π
  ero : EroSubobject → (offset : Nat) → List π
  rro : RroSubobject → (offset : Nat) → List π
  xro : XroSubobject → (offset : Nat) → List π

structure PartItems.Hold (parts : PartItems π) (registry : Registry) (holds : List UInt8 → π → Prop) :
    Prop where
  tlv : ∀ tlv : Tlv, (tlv.script registry).failure = none →
    HoldsAt holds (tlv.script registry).octets (parts.tlv tlv)
  vendorSubTlv : ∀ record, record.value.length ≤ 65535 →
    HoldsAt holds (tlvOctets record.code record.value) (parts.vendorSubTlv record)
  ero : ∀ subobject : EroSubobject, (subobject.script registry).failure = none →
    HoldsAt holds (subobject.script registry).octets (parts.ero subobject)
  rro : ∀ subobject : RroSubobject, (subobject.script registry).failure = none →
    HoldsAt holds (subobject.script registry).octets (parts.rro subobject)
  xro : ∀ subobject : XroSubobject, (subobject.script registry).failure = none →
    HoldsAt holds (subobject.script registry).octets (parts.xro subobject)

variable {parts : PartItems π}

namespace ObjectBody

def Tail.items (registry : Registry) (parts : PartItems π) : Tail → (offset : Nat) → List π
  | nothing => fun _ => []
  | tlvs list => Tlv.itemsOfAll registry parts.tlv list
  | explicitRoute route => Subobject.eroItems registry parts.ero route
  | reportedRoute route => Subobject.rroItems registry parts.rro route
  | excludedRoute route => Subobject.xroItems registry parts.xro route
  | vendorInformation information => information.recordItems parts.vendorSubTlv

theorem Tail.holdsAt_items {tail : Tail} (hold : parts.Hold registry holds)
    (written : (tail.script registry).toExcept = .ok octets) :
    HoldsAt holds octets (tail.items registry parts) := by
  cases tail with
  | nothing => exact holdsAt_nil
  | tlvs list => exact Tlv.holdsAt_scriptAll hold.tlv (Script.mapError_ok.mp written)
  | explicitRoute route => exact Subobject.holdsAt_eroScript hold.ero (Script.mapError_ok.mp written)
  | reportedRoute route => exact Subobject.holdsAt_rroScript hold.rro (Script.mapError_ok.mp written)
  | excludedRoute route => exact Subobject.holdsAt_xroScript hold.xro (Script.mapError_ok.mp written)
  | vendorInformation information =>
    exact VendorInformation.holdsAt_recordItems hold.vendorSubTlv (Script.mapError_ok.mp written)

def items (registry : Registry) (parts : PartItems π) (body : ObjectBody) (offset : Nat) : List π :=
  body.tail.items registry parts (offset + body.fixedPart.length)

theorem holdsAt_items {body : ObjectBody} (hold : parts.Hold registry holds)
    (written : ((ObjectValue.known body).script registry).toExcept = .ok octets) :
    HoldsAt holds octets (body.items registry parts) := by
  obtain ⟨back, tail, rfl⟩ := Script.emit_append_ok.mp written
  have groups := body.fixedLength_mod
  rw [← body.length_fixedPart] at groups
  exact (Tail.holdsAt_items hold tail).behind rfl groups

end ObjectBody

theorem Object.holdsAt_value {object : Object} {inside : Nat → List π}
    (each : ∀ octets, (object.value.script registry).toExcept = .ok octets →
      HoldsAt holds octets inside)
    (written : (object.script registry).failure = none) :
    HoldsAt holds (object.script registry).octets fun offset => inside (offset + 4) := by
  obtain ⟨-, -, -, contents, value, whole⟩ := script_ok.mp (Script.toExcept_of_failure written)
  rw [whole]
  refine ((each contents value).ahead _).behind ?_ (by decide)
  rw [header, List.length_append, length_beOctets]
  rfl

end Items
end RouteWire.Pcep
