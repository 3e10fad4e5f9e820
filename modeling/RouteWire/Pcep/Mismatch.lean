/-!
Lengths that do not fit: one that says more than there is, and one that a value of its kind cannot
have.
-/
namespace RouteWire.Pcep

structure LengthMismatch where
  declared : Nat
  available : Nat
  deriving DecidableEq, Repr

structure ValueLengthMismatch where
  code : UInt16
  expected : Nat
  actual : Nat
  deriving DecidableEq, Repr

def LengthMismatch.message (mismatch : LengthMismatch) : String :=
  "Wrong length specified. Passed: " ++ mismatch.declared.repr ++ "; Expected: <= " ++
    mismatch.available.repr ++ "."

def ValueLengthMismatch.message (mismatch : ValueLengthMismatch) : String :=
  "Wrong length of value for code " ++ mismatch.code.toNat.repr ++ ". Passed: " ++
    mismatch.actual.repr ++ "; Expected: " ++ mismatch.expected.repr ++ "."

end RouteWire.Pcep
