import SpokenEditor.Text.Basic

/-!
# Failures of services

What a service that was called may report instead of success.
-/

namespace SpokenEditor

/-- A failure reported by a service. -/
inductive ServiceError where
  /-- The service could not be reached. -/
  | network (reason : Text)
  /-- The session is not authorized any more. -/
  | unauthorized
  /-- The service refused the request. -/
  | rejected (reason : Text)
  deriving DecidableEq, Repr

/-- The wording of a failure. -/
def ServiceError.message : ServiceError → Text
  | network reason => "service unreachable: ".toList ++ reason
  | unauthorized => "not authorized".toList
  | rejected reason => "request rejected: ".toList ++ reason

end SpokenEditor
