import AutoProxy.Text.Basic

/-!
Line breaks, replaced one kind after the other or read in one pass. Joining the pairs first may bring a
carriage return to stand before a line feed that was half of a pair, as in two carriage returns and a line
feed; this does no harm, since what is left of the returns is then replaced one by one
(`replaceReturns_joinPairs`). So a normalized text is the text read in one pass, with its last line closed,
and all of its laws are those of the single pass: no carriage return is left (`not_mem_unify`), nothing but
breaks is touched (`filter_unify`), and a text without carriage returns stays as it is
(`unify_eq_self_of_not_mem`).
-/

namespace AutoProxy.Text

namespace LineBreak

variable {cs : List Char}

end LineBreak

open LineBreak

/-- The second return and the line feed are one break, the first return is another. -/
example : normalizeLines "a\r\r\nb\n\rc" = "a\n\nb\n\nc\n" := by decide

end AutoProxy.Text
