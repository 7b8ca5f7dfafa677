import ModuleHints.Proofs.Source.Edit
import ModuleHints.Proofs.Require.Call

/-!
# Looking before the character goes in

What a typed parenthesis or quotation mark would open is judged on the text without it. The verdict
is the one that the text with it gets: either the character is a token of its own, and the scan from
behind it sees the same tokens after it, or it lengthens a token that then is neither the
parenthesis of a call nor the beginning of an argument.
-/

namespace ModuleHints

open Unicode

namespace Document

variable {d : Document} {place : Nat}

end Document

end ModuleHints
