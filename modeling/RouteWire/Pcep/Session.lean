import RouteWire.Pcep.Ignored
import RouteWire.Pcep.Registry
/-!
Sessions: the registry by which one input after another is read, and the record of what was passed over
since it was last taken out. A session goes through all readers, and each of them may change it.
-/
namespace RouteWire.Pcep

structure Session where
  registry : Registry
  ignored : Ignored

namespace Session

def start (registry : Registry) : Session := ⟨registry, ∅⟩

def skip (session : Session) (skipped : Skipped) : Session :=
  { session with ignored := session.ignored.push skipped }

def takeIgnored (session : Session) : Ignored × Session :=
  (session.ignored, { session with ignored := ∅ })

end Session
end RouteWire.Pcep
