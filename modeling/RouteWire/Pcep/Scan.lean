import RouteWire.Framing
import RouteWire.Pcep.Session
/-!
Readers of a session. What is read is read in a session: by the registry of the session, and with notes
in its record. A reader leaves a session behind, also when it fails.

A scan reads octets from the start of a slice. It is put together from scans and from readers of the
frames that a slice is made of, each in the session that the one before it left.
-/
namespace RouteWire.Pcep

/-- Reads a value from an input of some sort, in a session. -/
structure SessionReader (ι ε α : Type) where
  run : ι → Session → Except (Failure ε) α × Session

/-- What a reader of sessions passes over and makes of an input in a new session. -/
def SessionReader.alone {ι ε α : Type} (reader : SessionReader ι ε α) (registry : Registry)
    (input : ι) : Ignored × Except (Failure ε) α :=
  let (answer, session) := reader.run input (.start registry)
  (session.ignored, answer)

instance {ι ε α : Type} :
    CoeFun (SessionReader ι ε α) fun _ => Registry → ι → Ignored × Except (Failure ε) α :=
  ⟨SessionReader.alone⟩

abbrev FrameReader (η ε α : Type) : Type := SessionReader (Frame η) ε α

abbrev Scan (ε α : Type) : Type := SessionReader Slice ε (α × Slice)

namespace Scan
variable {ε ε' η α β : Type}

def ofReader (reader : Registry → Reader ε α) : Scan ε α :=
  ⟨fun slice session => (reader session.registry slice, session)⟩

instance : Monad (Scan ε) where
  pure value := ⟨fun slice session => (.ok (value, slice), session)⟩
  bind scan next := ⟨fun slice session =>
    match scan.run slice session with
    | (.error failure, session) => (.error failure, session)
    | (.ok (value, rest), session) => (next value).run rest session⟩

def mapError (wrap : ε → ε') (scan : Scan ε α) : Scan ε' α := ⟨fun slice session =>
  match scan.run slice session with
  | (.error failure, session) =>
    (.error ⟨wrap failure.error, failure.offset, failure.left⟩, session)
  | (.ok result, session) => (.ok result, session)⟩

def element (framing : Framing η ε) (read : FrameReader η ε α) : Scan ε α := ⟨fun slice session =>
  match framing.cut slice with
  | .error failure => (.error failure, session)
  | .ok (frame, rest) =>
    match read.run frame session with
    | (.error failure, session) => (.error failure, session)
    | (.ok value, session) => (.ok (value, rest), session)⟩

/-- Reads frames in order and keeps the values of those that have one; `stopped` is the failure
behind the last of them. -/
def collect (read : FrameReader η ε (Option α)) (stopped : Option (Failure ε)) :
    List (Frame η) → Session → Except (Failure ε) (List α) × Session
  | [], session =>
    match stopped with
    | none => (.ok [], session)
    | some failure => (.error failure, session)
  | frame :: frames, session =>
    match read.run frame session with
    | (.error failure, session) => (.error failure, session)
    | (.ok value?, session) =>
      match collect read stopped frames session with
      | (.error failure, session) => (.error failure, session)
      | (.ok values, session) => (.ok (value?.toList ++ values), session)

def elements (framing : Framing η ε) (read : FrameReader η ε (Option α)) : Scan ε (List α) :=
  ⟨fun slice session =>
    let (frames, stopped) := framing.cutAll slice
    match collect read stopped frames session with
    | (.error failure, session) => (.error failure, session)
    | (.ok values, session) => (.ok (values, slice.finish), session)⟩

end Scan

def Session.read {ε α : Type} (session : Session) (scan : Scan ε α) (octets : List UInt8) :
    Except (Failure ε) (α × Slice) × Session :=
  scan.run (.whole octets) session

end RouteWire.Pcep
