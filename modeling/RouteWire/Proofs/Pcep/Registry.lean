import RouteWire.Pcep.Registry
/-!
Registries that are put together from extensions. In such a registry every code stands for the kind
that is written with this code, so reading and writing agree on codes.

Main statement: `Assembled.canonical`.
-/
namespace RouteWire

def Table.Keyed {κ α : Type} [DecidableEq κ] (table : Table κ α) (key : α → κ) : Prop :=
  ∀ (place : κ) (value : α), table.get? place = some value → key value = place

namespace Table.Keyed
variable {κ α : Type} [DecidableEq κ] {table : Table κ α} {key : α → κ}

theorem empty : (∅ : Table κ α).Keyed key := by
  intro place value found
  cases found

theorem insert (keyed : table.Keyed key) (value : α) : (table.insert (key value) value).Keyed key := by
  intro place other found
  rw [get?_insert] at found
  split at found
  · next same => cases found; exact same.symm
  · exact keyed place other found

theorem get?_of_isSome (keyed : table.Keyed key) (injective : ∀ {a b}, key a = key b → a = b)
    {value : α} (present : (table.get? (key value)).isSome) : table.get? (key value) = some value := by
  obtain ⟨found, lookup⟩ := Option.isSome_iff_exists.mp present
  rw [lookup, injective (keyed _ _ lookup)]

end Table.Keyed

namespace Pcep

theorem ObjectKind.codes_injective {a b : ObjectKind} (same : a.codes = b.codes) : a = b :=
  Option.some.inj ((ofClassAndType?_eq_some_iff.mpr rfl).symm.trans
    (ofClassAndType?_eq_some_iff.mpr same.symm))

namespace Registry

/-- The registries that come from the empty one by extensions and by enterprises, in any order and
number. -/
inductive Assembled : Registry → Prop
  | empty : Assembled .empty
  | base {registry : Registry} (before : Assembled registry) : Assembled (registry.enable .base)
  | stateful {registry : Registry} (before : Assembled registry) :
      Assembled (registry.enable .stateful)
  | segmentRouting {registry : Registry} (before : Assembled registry) :
      Assembled (registry.enable .segmentRouting)
  | vendor {registry : Registry} (enterprise : UInt32) (before : Assembled registry) :
      Assembled (registry.registerVendor enterprise)

theorem assembled_full : Assembled .full := .segmentRouting (.stateful (.base .empty))

/-- No code is registered as a kind that has another code. -/
structure Canonical (registry : Registry) : Prop where
  objects : registry.objects.Keyed ObjectKind.codes
  tlvs : registry.tlvs.Keyed CodePoint.code
  ero : registry.ero.Keyed CodePoint.code
  xro : registry.xro.Keyed CodePoint.code
  rro : registry.rro.Keyed CodePoint.code

namespace Canonical
variable {registry : Registry}

theorem empty : Canonical .empty := ⟨.empty, .empty, .empty, .empty, .empty⟩

theorem registerObject (canonical : Canonical registry) (kind : ObjectKind) :
    Canonical (registry.registerObject kind.codes kind) :=
  { canonical with objects := canonical.objects.insert kind }

theorem registerTlv (canonical : Canonical registry) (kind : TlvKind) :
    Canonical (registry.registerTlv (CodePoint.code kind) kind) :=
  { canonical with tlvs := canonical.tlvs.insert kind }

theorem registerEro (canonical : Canonical registry) (kind : EroKind) :
    Canonical (registry.registerEro (CodePoint.code kind) kind) :=
  { canonical with ero := canonical.ero.insert kind }

theorem registerXro (canonical : Canonical registry) (kind : XroKind) :
    Canonical (registry.registerXro (CodePoint.code kind) kind) :=
  { canonical with xro := canonical.xro.insert kind }

theorem registerRro (canonical : Canonical registry) (kind : RroKind) :
    Canonical (registry.registerRro (CodePoint.code kind) kind) :=
  { canonical with rro := canonical.rro.insert kind }

theorem foldl {κ : Type} {register : Registry → κ → Registry}
    (step : ∀ {registry}, Canonical registry → ∀ kind, Canonical (register registry kind))
    (canonical : Canonical registry) (kinds : List κ) :
    Canonical (kinds.foldl register registry) := by
  induction kinds generalizing registry with
  | nil => exact canonical
  | cons kind kinds ih => exact ih (step canonical kind)

theorem enable (canonical : Canonical registry) (extension : Extension) :
    Canonical (registry.enable extension) := by
  have objects := canonical.foldl registerObject extension.objects
  have tlvs := objects.foldl registerTlv extension.tlvs
  have ero := tlvs.foldl registerEro extension.ero
  have xro := ero.foldl registerXro extension.xro
  exact xro.foldl registerRro extension.rro

theorem object?_eq (canonical : Canonical registry) {kind : ObjectKind}
    (registered : (registry.object? kind.codes).isSome) :
    registry.object? kind.codes = some kind :=
  canonical.objects.get?_of_isSome ObjectKind.codes_injective registered

theorem tlv?_eq (canonical : Canonical registry) {kind : TlvKind}
    (registered : (registry.tlv? (CodePoint.code kind)).isSome) :
    registry.tlv? (CodePoint.code kind) = some kind :=
  canonical.tlvs.get?_of_isSome CodePoint.code_injective registered

theorem ero?_eq (canonical : Canonical registry) {kind : EroKind}
    (registered : (registry.ero? (CodePoint.code kind)).isSome) :
    registry.ero? (CodePoint.code kind) = some kind :=
  canonical.ero.get?_of_isSome CodePoint.code_injective registered

theorem xro?_eq (canonical : Canonical registry) {kind : XroKind}
    (registered : (registry.xro? (CodePoint.code kind)).isSome) :
    registry.xro? (CodePoint.code kind) = some kind :=
  canonical.xro.get?_of_isSome CodePoint.code_injective registered

theorem rro?_eq (canonical : Canonical registry) {kind : RroKind}
    (registered : (registry.rro? (CodePoint.code kind)).isSome) :
    registry.rro? (CodePoint.code kind) = some kind :=
  canonical.rro.get?_of_isSome CodePoint.code_injective registered

end Canonical

theorem Assembled.canonical {registry : Registry} (assembled : Assembled registry) :
    Canonical registry := by
  induction assembled with
  | empty => exact .empty
  | base _ ih => exact ih.enable .base
  | stateful _ ih => exact ih.enable .stateful
  | segmentRouting _ ih => exact ih.enable .segmentRouting
  | vendor enterprise _ ih => exact ⟨ih.objects, ih.tlvs, ih.ero, ih.xro, ih.rro⟩

end Registry
end Pcep
end RouteWire
