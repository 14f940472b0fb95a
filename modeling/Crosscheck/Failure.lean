/-!
# Failures and payloads

A failure is a chain of causes, the outermost first. Code that unwinds instead of
answering leaves a payload, which may or may not carry a text.
-/

namespace Crosscheck

/-- A chain of causes, the outermost first. -/
structure Failure where
  causes : List String
  deriving DecidableEq, Repr

namespace Failure

/-- A failure with one cause. -/
def because (cause : String) : Failure := ⟨[cause]⟩

/-- The failure as the cause of another one. -/
def within (failure : Failure) (context : String) : Failure := ⟨context :: failure.causes⟩

/-- The whole chain in one line. -/
def message (failure : Failure) : String := ": ".intercalate failure.causes

end Failure

/-- What unwinding code leaves behind. -/
inductive Payload where
  | text (text : String)
  | other
  deriving DecidableEq, Repr

/-- The text of a payload. -/
def Payload.message : Payload → String
  | .text value => value
  | .other => "Unknown panic type"

end Crosscheck
