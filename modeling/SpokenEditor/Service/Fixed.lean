import SpokenEditor.Service.Call

/-!
# Services with fixed answers

Services that always show the same files and reply to every call by its method alone. With them a
session can be followed through the calls it makes, whatever the replies are.
-/

namespace SpokenEditor

/-- Services that answer always the same. -/
structure FixedServices where
  files : List Candidate
  current : Option FileHandle
  reply : Method → Reply

instance : Services FixedServices where
  candidates s := s.files
  currentFile s := s.current
  perform c s := (s.reply c.method, s)

/-- A surface that reports one position and ignores edits. -/
structure FixedSurface where
  position : Position

instance : EditingSurface FixedSurface where
  cursor s := s.position
  applyEdit _ _ s := s
  focus s := s

end SpokenEditor
