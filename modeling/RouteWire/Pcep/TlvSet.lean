import RouteWire.Pcep.Tlv.Decode
import RouteWire.Pcep.Tlv.Encode
/-!
TLV sets: the TLVs that an object of some class carries. Each kind of TLV has a field of its own that
keeps the last one, and information of enterprises is kept all, in order. A TLV of another kind is
handed back.

A set is written as the list of its TLVs in the order of its fields.

Main statement: `scan_eq_scanInto`, by which reading may put aside the information of enterprises
until the end, which takes time in proportion to the input.
-/
namespace RouteWire.Pcep

class TlvSet (σ : Type) where
  empty : σ
  /-- The set with a TLV in the field of its kind, unless such a set has no field for that kind. -/
  put? : σ → Tlv → Option σ
  addVendors : σ → List VendorInformation → σ
  toList : σ → List Tlv

/-- A type of sets whose information of enterprises is a list apart from the other fields. -/
class LawfulTlvSet (σ : Type) [TlvSet σ] : Prop where
  addVendors_nil : ∀ set : σ, TlvSet.addVendors set [] = set
  addVendors_append : ∀ (set : σ) (first second : List VendorInformation),
    TlvSet.addVendors set (first ++ second) = TlvSet.addVendors (TlvSet.addVendors set first) second
  put?_addVendors : ∀ (set : σ) (information : List VendorInformation) (tlv : Tlv),
    TlvSet.put? (TlvSet.addVendors set information) tlv =
      (TlvSet.put? set tlv).map fun larger => TlvSet.addVendors larger information

structure OpeningTlvs where
  objectiveFunctionList : Option (List UInt16) := none
  statefulCapability : Option StatefulPceCapability := none
  lspDbVersion : Option UInt64 := none
  speakerEntityId : Option (List UInt8) := none
  associationTypeList : Option (List UInt16) := none
  associationRanges : Option (List AssociationRange) := none
  pathSetupTypeCapability : Option PathSetupTypeCapability := none
  vendorInformation : List VendorInformation := []
  deriving DecidableEq, Repr

instance : TlvSet OpeningTlvs where
  empty := {}
  put? set
    | .objectiveFunctionList codes => some { set with objectiveFunctionList := some codes }
    | .statefulPceCapability capability => some { set with statefulCapability := some capability }
    | .lspDbVersion version => some { set with lspDbVersion := some version }
    | .speakerEntityId id => some { set with speakerEntityId := some id }
    | .associationTypeList types => some { set with associationTypeList := some types }
    | .associationRanges ranges => some { set with associationRanges := some ranges }
    | .pathSetupTypeCapability capability =>
      some { set with pathSetupTypeCapability := some capability }
    | _ => none
  addVendors set information :=
    { set with vendorInformation := set.vendorInformation ++ information }
  toList set :=
    (set.objectiveFunctionList.map Tlv.objectiveFunctionList).toList ++
    (set.statefulCapability.map Tlv.statefulPceCapability).toList ++
    (set.lspDbVersion.map Tlv.lspDbVersion).toList ++
    (set.speakerEntityId.map Tlv.speakerEntityId).toList ++
    (set.associationTypeList.map Tlv.associationTypeList).toList ++
    (set.associationRanges.map Tlv.associationRanges).toList ++
    (set.pathSetupTypeCapability.map Tlv.pathSetupTypeCapability).toList ++
    set.vendorInformation.map Tlv.vendorInformation

instance : LawfulTlvSet OpeningTlvs where
  addVendors_nil set := by simp [TlvSet.addVendors]
  addVendors_append set first second := by simp [TlvSet.addVendors]
  put?_addVendors set information tlv := by cases tlv <;> rfl

structure Order where
  delete : UInt32
  setup : UInt32
  deriving DecidableEq, Repr

structure RequestParametersTlvs where
  order : Option Order := none
  pathSetupType : Option UInt8 := none
  vendorInformation : List VendorInformation := []
  deriving DecidableEq, Repr

instance : TlvSet RequestParametersTlvs where
  empty := {}
  put? set
    | .order delete setup => some { set with order := some ⟨delete, setup⟩ }
    | .pathSetupType type => some { set with pathSetupType := some type }
    | _ => none
  addVendors set information :=
    { set with vendorInformation := set.vendorInformation ++ information }
  toList set :=
    (set.order.map fun order => Tlv.order order.delete order.setup).toList ++
    (set.pathSetupType.map Tlv.pathSetupType).toList ++
    set.vendorInformation.map Tlv.vendorInformation

instance : LawfulTlvSet RequestParametersTlvs where
  addVendors_nil set := by simp [TlvSet.addVendors]
  addVendors_append set first second := by simp [TlvSet.addVendors]
  put?_addVendors set information tlv := by cases tlv <;> rfl

structure NoPathTlvs where
  noPathVector : Option NoPathVector := none
  vendorInformation : List VendorInformation := []
  deriving DecidableEq, Repr

instance : TlvSet NoPathTlvs where
  empty := {}
  put? set
    | .noPathVector vector => some { set with noPathVector := some vector }
    | _ => none
  addVendors set information :=
    { set with vendorInformation := set.vendorInformation ++ information }
  toList set :=
    (set.noPathVector.map Tlv.noPathVector).toList ++
    set.vendorInformation.map Tlv.vendorInformation

instance : LawfulTlvSet NoPathTlvs where
  addVendors_nil set := by simp [TlvSet.addVendors]
  addVendors_append set first second := by simp [TlvSet.addVendors]
  put?_addVendors set information tlv := by cases tlv <;> rfl

structure NotificationTlvs where
  overloadDuration : Option UInt32 := none
  vendorInformation : List VendorInformation := []
  deriving DecidableEq, Repr

instance : TlvSet NotificationTlvs where
  empty := {}
  put? set
    | .overloadDuration seconds => some { set with overloadDuration := some seconds }
    | _ => none
  addVendors set information :=
    { set with vendorInformation := set.vendorInformation ++ information }
  toList set :=
    (set.overloadDuration.map Tlv.overloadDuration).toList ++
    set.vendorInformation.map Tlv.vendorInformation

instance : LawfulTlvSet NotificationTlvs where
  addVendors_nil set := by simp [TlvSet.addVendors]
  addVendors_append set first second := by simp [TlvSet.addVendors]
  put?_addVendors set information tlv := by cases tlv <;> rfl

structure ErrorTlvs where
  requestMissing : Option UInt32 := none
  vendorInformation : List VendorInformation := []
  deriving DecidableEq, Repr

instance : TlvSet ErrorTlvs where
  empty := {}
  put? set
    | .requestMissing requestId => some { set with requestMissing := some requestId }
    | _ => none
  addVendors set information :=
    { set with vendorInformation := set.vendorInformation ++ information }
  toList set :=
    (set.requestMissing.map Tlv.requestMissing).toList ++
    set.vendorInformation.map Tlv.vendorInformation

instance : LawfulTlvSet ErrorTlvs where
  addVendors_nil set := by simp [TlvSet.addVendors]
  addVendors_append set first second := by simp [TlvSet.addVendors]
  put?_addVendors set information tlv := by cases tlv <;> rfl

inductive AnyLspIdentifiers where
  | ipv4 (identifiers : LspIdentifiers Ipv4)
  | ipv6 (identifiers : LspIdentifiers Ipv6)
  deriving DecidableEq, Repr

def AnyLspIdentifiers.toTlv : AnyLspIdentifiers → Tlv
  | ipv4 identifiers => .ipv4LspIdentifiers identifiers
  | ipv6 identifiers => .ipv6LspIdentifiers identifiers

structure LspTlvs where
  lspIdentifiers : Option AnyLspIdentifiers := none
  symbolicPathName : Option (List UInt8) := none
  lspErrorCode : Option UInt32 := none
  rsvpErrorSpec : Option RsvpErrorSpec := none
  lspDbVersion : Option UInt64 := none
  pathBinding : Option PathBinding := none
  vendorInformation : List VendorInformation := []
  deriving DecidableEq, Repr

instance : TlvSet LspTlvs where
  empty := {}
  put? set
    | .ipv4LspIdentifiers identifiers => some { set with lspIdentifiers := some (.ipv4 identifiers) }
    | .ipv6LspIdentifiers identifiers => some { set with lspIdentifiers := some (.ipv6 identifiers) }
    | .symbolicPathName name => some { set with symbolicPathName := some name }
    | .lspErrorCode code => some { set with lspErrorCode := some code }
    | .rsvpErrorSpec spec => some { set with rsvpErrorSpec := some spec }
    | .lspDbVersion version => some { set with lspDbVersion := some version }
    | .pathBinding binding => some { set with pathBinding := some binding }
    | _ => none
  addVendors set information :=
    { set with vendorInformation := set.vendorInformation ++ information }
  toList set :=
    (set.lspIdentifiers.map AnyLspIdentifiers.toTlv).toList ++
    (set.symbolicPathName.map Tlv.symbolicPathName).toList ++
    (set.lspErrorCode.map Tlv.lspErrorCode).toList ++
    (set.rsvpErrorSpec.map Tlv.rsvpErrorSpec).toList ++
    (set.lspDbVersion.map Tlv.lspDbVersion).toList ++
    (set.pathBinding.map Tlv.pathBinding).toList ++
    set.vendorInformation.map Tlv.vendorInformation

instance : LawfulTlvSet LspTlvs where
  addVendors_nil set := by simp [TlvSet.addVendors]
  addVendors_append set first second := by simp [TlvSet.addVendors]
  put?_addVendors set information tlv := by cases tlv <;> rfl

structure SrpTlvs where
  symbolicPathName : Option (List UInt8) := none
  pathSetupType : Option UInt8 := none
  vendorInformation : List VendorInformation := []
  deriving DecidableEq, Repr

instance : TlvSet SrpTlvs where
  empty := {}
  put? set
    | .symbolicPathName name => some { set with symbolicPathName := some name }
    | .pathSetupType type => some { set with pathSetupType := some type }
    | _ => none
  addVendors set information :=
    { set with vendorInformation := set.vendorInformation ++ information }
  toList set :=
    (set.symbolicPathName.map Tlv.symbolicPathName).toList ++
    (set.pathSetupType.map Tlv.pathSetupType).toList ++
    set.vendorInformation.map Tlv.vendorInformation

instance : LawfulTlvSet SrpTlvs where
  addVendors_nil set := by simp [TlvSet.addVendors]
  addVendors_append set first second := by simp [TlvSet.addVendors]
  put?_addVendors set information tlv := by cases tlv <;> rfl

structure VendorTlvs where
  vendorInformation : List VendorInformation := []
  deriving DecidableEq, Repr

instance : TlvSet VendorTlvs where
  empty := {}
  put? _ _ := none
  addVendors set information :=
    { set with vendorInformation := set.vendorInformation ++ information }
  toList set := set.vendorInformation.map Tlv.vendorInformation

instance : LawfulTlvSet VendorTlvs where
  addVendors_nil set := by simp [TlvSet.addVendors]
  addVendors_append set first second := by simp [TlvSet.addVendors]
  put?_addVendors set information tlv := by cases tlv <;> rfl

namespace TlvSet
variable {σ : Type} [TlvSet σ]

/-- The set with a TLV in it, unless objects with such a set do not carry it. -/
def insert? (set : σ) : Tlv → Option σ
  | .vendorInformation information => some (addVendors set [information])
  | tlv => put? set tlv

/-- What becomes of a set to which a TLV is offered, and the TLV if it is handed back. -/
def insert (set : σ) (tlv : Tlv) : Option Tlv × σ :=
  match insert? set tlv with
  | some larger => (none, larger)
  | none => (some tlv, set)

/-- Reads frames in order and offers each TLV to whatever takes TLVs; `stopped` is the failure behind
the last of them. -/
def fill {τ : Type} (insert : τ → Tlv → Option Tlv × τ) (stopped : Option (Failure TlvReadError)) :
    τ → List (Frame UInt16) → Session → Except (Failure TlvReadError) τ × Session
  | set, [], session =>
    match stopped with
    | none => (.ok set, session)
    | some failure => (.error failure, session)
  | set, frame :: frames, session =>
    match Tlv.ofFrame.run frame session with
    | (.error failure, session) => (.error failure, session)
    | (.ok none, session) => fill insert stopped set frames session
    | (.ok (some tlv), session) =>
      match insert set tlv with
      | (none, larger) => fill insert stopped larger frames session
      | (some rejected, larger) =>
        fill insert stopped larger frames (session.skip (.rejectedTlv rejected.code))

def scanInto {τ : Type} (insert : τ → Tlv → Option Tlv × τ) (start : τ) : Scan TlvReadError τ :=
  ⟨fun slice session =>
    let (frames, stopped) := Tlv.framing.cutAll slice
    match fill insert stopped start frames session with
    | (.error failure, session) => (.error failure, session)
    | (.ok set, session) => (.ok (set, slice.finish), session)⟩

/-- Offers a TLV to a set, but puts the information of enterprises aside, the last first. -/
def insertApart (apart : List VendorInformation × σ) :
    Tlv → Option Tlv × List VendorInformation × σ
  | .vendorInformation information => (none, information :: apart.1, apart.2)
  | tlv => ((insert apart.2 tlv).1, apart.1, (insert apart.2 tlv).2)

def scan : Scan TlvReadError σ := do
  let apart ← scanInto insertApart ([], empty)
  pure (addVendors apart.2 apart.1.reverse)

theorem insert_addVendors [LawfulTlvSet σ] (set : σ) (information : List VendorInformation)
    (tlv : Tlv) (other : ∀ vendor, tlv ≠ .vendorInformation vendor) :
    insert (addVendors set information) tlv =
      ((insert set tlv).1, addVendors (insert set tlv).2 information) := by
  have inserted (set : σ) : insert? set tlv = put? set tlv := by
    cases tlv <;> first | rfl | exact absurd rfl (other _)
  rw [insert, insert, inserted, inserted, LawfulTlvSet.put?_addVendors]
  cases put? set tlv <;> rfl

theorem insert_whole [LawfulTlvSet σ] (vendors : List VendorInformation) (set : σ) (tlv : Tlv) :
    insert (addVendors set vendors.reverse) tlv =
      ((insertApart (vendors, set) tlv).1,
        addVendors (insertApart (vendors, set) tlv).2.2
          (insertApart (vendors, set) tlv).2.1.reverse) := by
  unfold insertApart
  split
  · rw [List.reverse_cons, LawfulTlvSet.addVendors_append]
    rfl
  · next other => exact insert_addVendors set _ _ fun vendor same => other vendor same

theorem fill_insertApart [LawfulTlvSet σ] (stopped : Option (Failure TlvReadError))
    (vendors : List VendorInformation) (set : σ) (frames : List (Frame UInt16)) (session : Session) :
    fill insert stopped (addVendors set vendors.reverse) frames session =
      ((fill insertApart stopped (vendors, set) frames session).1.map fun apart =>
          addVendors apart.2 apart.1.reverse,
        (fill insertApart stopped (vendors, set) frames session).2) := by
  induction frames generalizing vendors set session with
  | nil => cases stopped <;> rfl
  | cons frame frames ih =>
    rw [fill, fill]
    rcases Tlv.ofFrame.run frame session with ⟨failure | _ | tlv, session⟩
    · rfl
    · exact ih vendors set session
    · dsimp only
      rw [insert_whole]
      rcases insertApart (vendors, set) tlv with ⟨_ | rejected, larger⟩ <;> exact ih ..

theorem scan_eq_scanInto [LawfulTlvSet σ] : (scan : Scan TlvReadError σ) = scanInto insert empty := by
  have apart := fun stopped => fill_insertApart stopped [] (empty : σ)
  simp only [List.reverse_nil, LawfulTlvSet.addVendors_nil] at apart
  simp only [scan, scanInto, bind, pure, apart]
  congr
  funext slice session
  rcases fill insertApart (Tlv.framing.cutAll slice).2 ([], (empty : σ)) (Tlv.framing.cutAll slice).1
    session with ⟨failure | ⟨vendors, set⟩, session⟩ <;> rfl

def length (registry : Registry) (set : σ) : Nat := Tlv.totalLength registry (toList set)

def script (registry : Registry) (set : σ) : Script TlvWriteError :=
  Tlv.scriptAll registry (toList set)

end TlvSet
end RouteWire.Pcep
