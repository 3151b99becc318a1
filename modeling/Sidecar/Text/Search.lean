/-!
# Text/Search — finding a text inside another
-/

namespace Sidecar.Text

/-- Whether a text holds another somewhere. -/
def holds (part : List Char) : List Char → Bool
  | [] => part.isEmpty
  | c :: cs => part.isPrefixOf (c :: cs) || holds part cs

/-- **What a text holds is a part of it.** -/
theorem holds_iff_isInfix {part cs : List Char} : holds part cs = true ↔ part <:+: cs := by
  induction cs with
  | nil => simp [holds]
  | cons c cs ih => simp [holds, ih, List.infix_cons_iff]

end Sidecar.Text
