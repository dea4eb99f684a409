import SpokenEditor.Buffer.Basic
import SpokenEditor.Service.Call

/-!
# The buffer as editing surface

A text buffer takes the edits of a session.
-/

namespace SpokenEditor

instance : EditingSurface Buffer where
  cursor := Buffer.cursor
  applyEdit := Buffer.apply
  focus := Buffer.focus

end SpokenEditor
