import RouteWire.Proofs.Bgp.Capability
/-!
What a failed call to write a capability leaves in the sink. Lengths and times are checked before anything
is written, but families are looked up one by one as they are written: one that is not registered leaves
the header and the families in front of it behind.

Main statement: `capability_refused`.
-/
namespace RouteWire.Bgp.Capability
variable {registry : FamilyRegistry} {octets : List UInt8} {capability : Capability}
  {error : CapabilityWriteError}

/-- The families that are looked up, in that order, with the flags that each is written with. -/
def families : Capability → List (AddressType × List Bool)
  | multiProtocolExtensions type => [(type, [])]
  | gracefulRestart restart => restart.families.map fun family =>
      (family.type, [false, false, false, false, false, false, false, family.forwardingState])
  | addPath families => families.map fun family => (family.type, [family.receive, family.send])
  | routeRefresh | enhancedRouteRefresh | extendedMessage | fourOctetAs _ | unrecognized .. => []

def valueFront : Capability → List UInt8
  | gracefulRestart restart => beOctets 2 (restart.time.toNat +
      16384 * bitsValue [restart.gracefulNotification, restart.restart])
  | _ => []

def front (capability : Capability) : List UInt8 :=
  [capability.code, UInt8.ofNat capability.valueLength] ++ capability.valueFront

def entries (registry : FamilyRegistry) (families : List (AddressType × List Bool)) : List UInt8 :=
  families.flatMap fun family => (familyEntry registry family.1 family.2).octets

/-! ## Families that are not registered -/

/-- The families are written up to one that is not registered, and that one is the error. -/
structure StopsAt (registry : FamilyRegistry) (families before : List (AddressType × List Bool))
    (error : CapabilityWriteError) : Prop where
  stops : ∃ type flags later, families = before ++ (type, flags) :: later ∧
    registry.codesOf? type = none ∧ error = .unregisteredType type
  registered : ∀ family ∈ before, (registry.codesOf? family.1).isSome

theorem withCodes_failed {type : AddressType} {encode : FamilyCodes → List UInt8}
    (failed : (withCodes registry type encode).failure = some error) :
    registry.codesOf? type = none ∧ error = .unregisteredType type ∧
      (withCodes registry type encode).octets = [] := by
  rw [withCodes] at failed ⊢
  cases known : registry.codesOf? type with
  | some codes =>
    rw [known] at failed
    cases failed
  | none =>
    rw [known] at failed
    cases failed
    exact ⟨rfl, rfl, rfl⟩

theorem registered_of_withCodes {type : AddressType} {encode : FamilyCodes → List UInt8}
    (runs : (withCodes registry type encode).failure = none) : (registry.codesOf? type).isSome := by
  obtain ⟨codes, known, -⟩ := withCodes_ok.mp (Script.toExcept_of_failure runs)
  rw [known]
  rfl

theorem entries_failed {families : List (AddressType × List Bool)}
    (failed : (Script.concat (families.map fun family =>
      familyEntry registry family.1 family.2)).failure = some error) :
    ∃ before, StopsAt registry families before error ∧
      (Script.concat (families.map fun family => familyEntry registry family.1 family.2)).octets =
        entries registry before := by
  obtain ⟨before, ⟨type, flags⟩, later, whole, runs, stopped, written⟩ :=
    Script.concat_map_failed failed
  obtain ⟨unknown, rfl, nothing⟩ := withCodes_failed stopped
  refine ⟨before, ⟨⟨type, flags, later, whole, unknown, rfl⟩, fun family member =>
    registered_of_withCodes (runs family member)⟩, ?_⟩
  rw [written, familyEntry, nothing, List.append_nil, entries]

theorem valueScript_failed (failed : (capability.valueScript registry).failure = some error) :
    ∃ before, StopsAt registry capability.families before error ∧
      (capability.valueScript registry).octets =
        capability.valueFront ++ entries registry before := by
  cases capability with
  | multiProtocolExtensions type =>
    obtain ⟨unknown, rfl, nothing⟩ := withCodes_failed failed
    exact ⟨[], ⟨⟨type, [], [], rfl, unknown, rfl⟩, List.forall_mem_nil _⟩, nothing⟩
  | gracefulRestart restart =>
    have same : restart.families.map (fun family => familyEntry registry family.type
        [false, false, false, false, false, false, false, family.forwardingState]) =
        (gracefulRestart restart).families.map fun family =>
          familyEntry registry family.1 family.2 := by
      rw [Capability.families, List.map_map]
      rfl
    rw [valueScript, same, Script.failure_append, Script.failure_emit] at failed
    obtain ⟨before, stopsAt, written⟩ := entries_failed failed
    refine ⟨before, stopsAt, ?_⟩
    rw [valueScript, same, Script.octets_append, Script.octets_emit, Script.failure_emit, written]
    rfl
  | addPath paths =>
    have same : paths.map (fun family => familyEntry registry family.type
        [family.receive, family.send]) =
        (addPath paths).families.map fun family =>
          familyEntry registry family.1 family.2 := by
      rw [Capability.families, List.map_map]
      rfl
    rw [valueScript, same] at failed ⊢
    exact entries_failed failed
  | routeRefresh | enhancedRouteRefresh | extendedMessage | fourOctetAs _ | unrecognized _ _ =>
    cases failed

/-! ## Capabilities -/

theorem check_ne_unregistered {type : AddressType} :
    capability.check ≠ some (.unregisteredType type) := by
  unfold check
  split
  · exact nofun
  · cases capability with
    | gracefulRestart restart =>
      dsimp only
      split <;> exact nofun
    | _ => exact nofun

theorem script_failed (failed : (capability.script registry).failure = some error) :
    (capability.check = some error ∧ (capability.script registry).octets = []) ∨
      ∃ before, StopsAt registry capability.families before error ∧
        (capability.script registry).octets = capability.front ++ entries registry before := by
  rw [script, Script.failure_append] at failed
  rw [script, Script.octets_append]
  cases checked : capability.check with
  | some cause =>
    rw [checked] at failed
    cases failed
    exact .inl ⟨rfl, rfl⟩
  | none =>
    -- The header is written before the first family is looked up.
    rw [checked] at failed
    have value : (capability.valueScript registry).failure = some error := failed
    obtain ⟨before, stopsAt, written⟩ := valueScript_failed value
    refine .inr ⟨before, stopsAt, ?_⟩
    rw [Script.octets_append, written, front, List.append_assoc]
    rfl

/-- A call that fails has written nothing just if it is not a family that is at fault. Otherwise it has
written everything in front of the first family that is not registered. -/
theorem capability_refused (failed : (capability.script registry).run none = (octets, some error)) :
    (octets = [] ↔ ∀ type, error ≠ .unregisteredType type) ∧
      ∀ type, error = .unregisteredType type → ∃ before flags later,
        capability.families = before ++ (type, flags) :: later ∧
          (∀ family ∈ before, (registry.codesOf? family.1).isSome) ∧
          registry.codesOf? type = none ∧
          octets = capability.front ++ entries registry before := by
  rw [Script.run, Prod.mk.injEq] at failed
  obtain ⟨rfl, failure⟩ := failed
  rcases script_failed failure with ⟨checked, nothing⟩ | ⟨before, stopsAt, written⟩
  · have other : ∀ type, error ≠ .unregisteredType type := by
      rintro type rfl
      exact check_ne_unregistered checked
    exact ⟨iff_of_true nothing other, fun type same => absurd same (other type)⟩
  · obtain ⟨⟨type, flags, later, whole, unknown, rfl⟩, registered⟩ := stopsAt
    refine ⟨iff_of_false ?_ fun other => other type rfl, ?_⟩
    · rw [written]
      exact List.cons_ne_nil _ _
    · rintro _ ⟨⟩
      exact ⟨before, flags, later, whole, registered, unknown, written⟩

/-- The last of the families has lost its codes. -/
def restartOfMoved : Capability :=
  .gracefulRestart ⟨true, false, 120, [⟨true, .ipv4Unicast⟩, ⟨false, .bgpLs⟩, ⟨true, .ipv6Unicast⟩]⟩

theorem capability_refused_moved :
    (([64, 14, 128, 120, 0, 1, 241, 128, 0, 2, 1, 0] : List UInt8) = [] ↔
      ∀ type, CapabilityWriteError.unregisteredType .ipv6Unicast ≠ .unregisteredType type) ∧
    ∃ before flags later, restartOfMoved.families = before ++ (.ipv6Unicast, flags) :: later ∧
      (∀ family ∈ before, ((FamilyRegistry.build movedFamilies).codesOf? family.1).isSome) ∧
      (FamilyRegistry.build movedFamilies).codesOf? .ipv6Unicast = none ∧
      [64, 14, 128, 120, 0, 1, 241, 128, 0, 2, 1, 0] =
        restartOfMoved.front ++ entries (.build movedFamilies) before := by
  have failed : (restartOfMoved.script (.build movedFamilies)).run none =
      ([64, 14, 128, 120, 0, 1, 241, 128, 0, 2, 1, 0], some (.unregisteredType .ipv6Unicast)) := by
    decide +kernel
  exact ⟨(capability_refused failed).1, (capability_refused failed).2 _ rfl⟩

theorem not_empty_of_refused :
    ¬∀ (registry : FamilyRegistry) (capability : Capability) (octets : List UInt8)
      (error : CapabilityWriteError),
      (capability.script registry).run none = (octets, some error) → octets = [] := by
  intro empty
  have failed : (script (.build [.assigned .ipv4Unicast])
      (.multiProtocolExtensions .ipv6Unicast)).run none =
        ([1, 4], some (.unregisteredType .ipv6Unicast)) := by decide +kernel
  cases empty _ _ _ _ failed

end RouteWire.Bgp.Capability
