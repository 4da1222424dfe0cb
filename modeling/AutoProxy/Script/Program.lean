import AutoProxy.Script.Evaluator
import AutoProxy.Script.Reader

/-!
Whole scripts, run one after the other on one machine. What a script has declared is still there for
the next one; a name that was declared with `let` or `const` cannot be declared again.
-/

namespace AutoProxy.Script

/-- The fuel for an evaluation within the bounds: as many levels for each call as there are turns,
tokens and, with a margin, elements of lists. -/
def Bounds.fuel (b : Bounds) (size : Nat) : Nat := (b.calls + 1) * (b.turns + 64 * size + 1000000)

/-- The names that the language itself gives to every script. -/
def languageVariables : List (String × Variable) :=
  ErrorKind.all.map (fun k => (k.name, { value := some (.native (.makeError k)) })) ++
    [("undefined", { value := some .undefined, change := .ignored }),
      ("NaN", { value := some (.number Numeral.nan), change := .ignored }),
      ("Infinity", { value := some (.number Numeral.infinity), change := .ignored })]

/-- The machine that knows no more than the language itself. -/
def Machine.blank : Machine :=
  { scopes := #[⟨languageVariables, none⟩, ⟨[], some Machine.outermost⟩], objects := #[] }

def Machine.bind (m : Machine) (q : Question) : Machine :=
  m.place Machine.outermost q.name { value := some (.native (.question q)) }

def Machine.knows (m : Machine) (scope : Nat) (name : String) : Bool :=
  (m.scopes[scope]?).any fun s => (s.entries.lookup name).isSome

/-- Whether the name is one of the whole script that must not be declared anew. -/
def Machine.reserves (m : Machine) (name : String) : Bool :=
  (m.scopes[outermost]?).any fun s =>
    (s.entries.lookup name).any fun v => v.change == .ignored

/-- Whether the declarations of a script agree with what scripts before it have declared. -/
def Machine.admits (m : Machine) (body : List Statement) : Bool :=
  let lexical := (lexicalNames body).map Prod.snd
  let others := variableNames body ++ (functions body).map Prod.fst
  lexical.all (fun n => !m.knows top n && !m.reserves n) && others.all (fun n => !m.knows top n)

def Value.shown (m : Machine) : Value → String
  | .text units => "\"" ++ Text.Utf16.toString units ++ "\""
  | .number x => if x == 0.0 && 1.0 / x < 0.0 then "-0" else Numeral.toText x
  | .native f => functionText f.name
  | .object place =>
    match m.objects[place]? with
    | none => ""
    | some e =>
      match e.nature with
      | .plain | .list | .arguments => "[object Object]"
      | .closure code _ => functionText (code.name.getD "")
      | .error _ =>
        Text.Utf16.toString (errorText (e.member "name").simpleText (e.member "message").simpleText)
  | v => Text.Utf16.toString v.simpleText

/-- Runs the statements of a script: the text of the value of its last expression. -/
def runBody (w : Conditions) (fuel : Nat) (body : List Statement) : Run (List UInt16) := do
  addVariables Machine.outermost (variableNames body)
  addFunctions Machine.outermost Machine.top (functions body)
  announce Machine.top (lexicalNames body)
  match ← performAll w fuel Machine.top body none with
  | .onward (some v) => toText w fuel v
  | _ => toText w fuel .undefined

/-- The fault that an early end of an evaluation is told as. -/
def Stop.fault (b : Bounds) (m : Machine) : Stop → EvaluationFault
  | .thrown v => .thrown (v.shown m)
  | .halted .tooManyTurns => .tooManyTurns b.turns
  | .halted .tooManyCalls => .tooManyCalls
  | .halted .outOfTime => .abandoned
  | .halted .collapsed => .collapsed

/-- Runs the text of a script on a machine: the text of its value, or why there is none, and the
machine afterwards. -/
def run (w : Conditions) (m : Machine) (text : String) :
    Except EvaluationFault String × Machine :=
  let cs := text.toList
  match program? cs with
  | none => (.error .unreadable, m)
  | some body =>
    if m.admits body then
      match runBody w (w.bounds.fuel cs.length) body { m with depth := 1, turns := 0, work := 0 } with
      | .ok units m => (.ok (Text.Utf16.toString units), m)
      | .error stop m => (.error (stop.fault w.bounds m), m)
    else (.error .unreadable, m)

end AutoProxy.Script
