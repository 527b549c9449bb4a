import Tablesmith.Failure

/-!
# Faults of YAML texts

A YAML text is malformed, one of its scalars cannot be made into the value
that its tag asks for, or the text breaks off where its bytes cannot be
decoded.  Why a text is malformed is not told apart.
-/

namespace Tablesmith.Yaml

/-- What is wrong with a YAML text. -/
inductive Fault where
  | malformed
  | scalar (failure : Failure)
  | undecoded (fault : Text.Utf8Fault)
  deriving Repr

end Tablesmith.Yaml
