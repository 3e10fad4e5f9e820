import RouteWire.Reader
/-!
How the bits of a segment identifier divide into locator block, locator node, function and argument.
-/
namespace RouteWire.Pcep

structure SidStructure where
  locatorBlock : UInt8
  locatorNode : UInt8
  function : UInt8
  argument : UInt8
  deriving DecidableEq, Repr

namespace SidStructure

def octets (parts : SidStructure) : List UInt8 :=
  [parts.locatorBlock, parts.locatorNode, parts.function, parts.argument]

def read {ε : Type} [EndOfInput ε] : Reader ε SidStructure := do
  let locatorBlock ← Reader.octet
  let locatorNode ← Reader.octet
  let function ← Reader.octet
  let argument ← Reader.octet
  pure { locatorBlock, locatorNode, function, argument }

end SidStructure
end RouteWire.Pcep
