import AutoProxy.CommandLine.Options

/-!
The places in which a setting can be given, one setting at a time. Each of the three settings that have a
variable of their own and an option of the command line is taken from a document, from the environment and
from the command line by the same law: it is what is given for it there, and else as it was before
(`lawful_sourceSetting`, `lawful_addressSetting`, `lawful_timeoutSetting`).
-/

namespace AutoProxy

open CommandLine

namespace Settings

/-! ### Places -/

/-- The sections of a document. -/
def sections : List String := ["script", "engine", "predicates", "resolver", "logging"]

/-- The value that a document gives for a key of a section; `keys` are those of the section. -/
def Document.at? (keys : List String) (part key : String) (d : Document) : Option Document :=
  (d.fields? sections).bind fun given =>
    (given part).bind fun inner => (inner.fields? keys).bind fun fields => fields key

/-- A setting: what it is among all settings, and where and how it can be given. -/
structure Setting (α : Type) where
  value : Settings → α
  part : String
  keys : List String
  key : String
  read : Document → Option α
  variableName : String
  parse : String → Except LoadFault α
  given : Overrides → Option α

/-- Where the script is. -/
def sourceSetting : Setting (Option String) where
  value := fun s => s.script.source
  part := "script"
  keys := ["source", "connect_timeout", "read_timeout", "fallback_ttl", "watch"]
  key := "source"
  read := Document.optional Document.text?
  variableName := "PACRESOLVER_SCRIPT"
  parse := fun text => .ok (some text)
  given := fun o => o.script.map some

/-- The address that scripts see as the machine's own. -/
def addressSetting : Setting (Option Address) where
  value := fun s => s.ownAddress
  part := "predicates"
  keys := ["local_ip_override"]
  key := "local_ip_override"
  read := Document.optional address?
  variableName := "PACRESOLVER_LOCAL_IP"
  parse := fun text => (addressOf text).map some
  given := fun o => o.ownAddress.map some

/-- How long an evaluation may take. -/
def timeoutSetting : Setting Span where
  value := fun s => s.limits.timeout
  part := "engine"
  keys := ["evaluation_timeout", "loop_iteration_limit", "recursion_limit"]
  key := "evaluation_timeout"
  read := span?
  variableName := "PACRESOLVER_EVALUATION_TIMEOUT"
  parse := timeoutOf
  given := fun o => o.timeoutSeconds.map Span.ofSeconds

namespace Setting

variable {α : Type}

def default (p : Setting α) : α := p.value {}

def inDocument (p : Setting α) (d : Document) : Option α := (d.at? p.keys p.part p.key).bind p.read

def inFile (p : Setting α) : Except FileFault (List UInt8) → Option α
  | .ok bytes => ((Text.Utf8.decode? bytes).bind Toml.document?).bind p.inDocument
  | .error _ => none

def inEnvironment (p : Setting α) (env : Environment) : Option α :=
  (env p.variableName).bind fun text => (p.parse text).toOption

/-- The setting is taken from each place as it is given there, and else is as it was before. -/
structure Lawful (p : Setting α) : Prop where
  ofDocument {d : Document} {s : Settings} :
    ofDocument? d = some s → p.value s = (p.inDocument d).getD p.default
  ofEnvironment {env : Environment} {s : Settings} :
    ofEnvironment env = .ok s → p.value s = (p.inEnvironment env).getD p.default
  apply (o : Options) (s : Settings) : p.value (o.apply s) = (p.given o.overrides).getD (p.value s)

end Setting

/-! ### Documents -/

section Documents

variable {α β : Type} {d : Document} {s : Settings} {given : String → Option Document}

/-- A field has the value that is read, or the default. -/
theorem eq_of_field? {name : String} {default a : α} {read : Document → Option α}
    (h : Document.field? given name default read = some a) :
    a = ((given name).bind read).getD default := by
  cases hname : given name with
  | none => simpa [Document.field?, hname, eq_comm] using h
  | some v =>
      simp only [Document.field?, hname] at h
      simp [h]

/-- A value within a section is what the document gives for it, or its default. -/
theorem eq_of_section (value : β → α) {default b : β} {inner : Document → Option β}
    {keys : List String} {part key : String} {read : Document → Option α}
    (hgiven : d.fields? sections = some given)
    (hpart : Document.field? given part default inner = some b)
    (hinner : ∀ v b, inner v = some b → ∃ fields, v.fields? keys = some fields ∧
      Document.field? fields key (value default) read = some (value b)) :
    value b = ((d.at? keys part key).bind read).getD (value default) := by
  cases hv : given part with
  | none =>
      rw [Document.field?, hv] at hpart
      cases hpart
      simp [Document.at?, hgiven, hv]
  | some v =>
      rw [Document.field?, hv] at hpart
      obtain ⟨fields, hfields, hkey⟩ := hinner v b hpart
      rw [eq_of_field? hkey]
      simp [Document.at?, hgiven, hv, hfields]

/-- The sections in which the settings of a document lie. -/
theorem sections_of_ofDocument? (h : ofDocument? d = some s) :
    ∃ given, d.fields? sections = some given ∧
      Document.field? given "script" {} script? = some s.script ∧
      Document.field? given "engine" {} limits? = some s.limits ∧
      Document.field? given "predicates" none
        (single? "local_ip_override" none (Document.optional address?)) = some s.ownAddress := by
  simp only [ofDocument?, Option.bind_eq_bind, Option.bind_eq_some_iff, Option.pure_def] at h
  obtain ⟨given, hgiven, script, hscript, limits, hlimits, address, haddress, _, _, _, _, hs⟩ := h
  cases hs
  exact ⟨given, hgiven, hscript, hlimits, haddress⟩

theorem source_of_script? {script : ScriptSettings} (h : script? d = some script) :
    ∃ fields, d.fields? sourceSetting.keys = some fields ∧
      Document.field? fields "source" none (Document.optional Document.text?) = some script.source := by
  simp only [script?, Option.bind_eq_bind, Option.bind_eq_some_iff, Option.pure_def] at h
  obtain ⟨fields, hfields, source, hsource, _, _, _, _, _, _, _, _, hs⟩ := h
  cases hs
  exact ⟨fields, hfields, hsource⟩

theorem timeout_of_limits? {limits : Limits} (h : limits? d = some limits) :
    ∃ fields, d.fields? timeoutSetting.keys = some fields ∧
      Document.field? fields "evaluation_timeout" ({} : Limits).timeout span? =
        some limits.timeout := by
  simp only [limits?, Option.bind_eq_bind, Option.bind_eq_some_iff, Option.pure_def] at h
  obtain ⟨fields, hfields, timeout, htimeout, _, _, _, _, hs⟩ := h
  cases hs
  exact ⟨fields, hfields, htimeout⟩

theorem value_of_single? {name : String} {default a : α} {read : Document → Option α}
    (h : single? name default read d = some a) :
    ∃ fields, d.fields? [name] = some fields ∧
      Document.field? fields name default read = some a := by
  simpa only [single?, Option.bind_eq_bind, Option.bind_eq_some_iff] using h

end Documents

/-! ### The environment -/

theorem eq_of_fromVariable {α : Type} {env : Environment} {name : String} {default a : α}
    {read : String → Except LoadFault α} (h : fromVariable env name default read = .ok a) :
    a = ((env name).bind fun text => (read text).toOption).getD default := by
  cases hname : env name with
  | none => simpa [fromVariable, hname, eq_comm] using h
  | some text =>
      simp only [fromVariable, hname] at h
      simp [h, Except.toOption]

theorem eq_of_checked {s t : Settings} {fault : SectionFault → LoadFault}
    (h : checked s fault = .ok t) : t = s := by
  unfold checked at h
  split at h
  · cases h
    rfl
  · cases h

theorem eq_ok_of_bind {ε α β : Type} {x : Except ε α} {f : α → Except ε β} {b : β}
    (h : x >>= f = .ok b) : ∃ a, x = .ok a ∧ f a = .ok b := by
  cases x with
  | error e => cases h
  | ok a => exact ⟨a, rfl, h⟩

/-- The variables that the settings of an environment come from. -/
theorem variables_of_ofEnvironment {env : Environment} {s : Settings} (h : ofEnvironment env = .ok s) :
    fromVariable env "PACRESOLVER_SCRIPT" none (fun text => .ok (some text)) = .ok s.script.source ∧
      fromVariable env "PACRESOLVER_LOCAL_IP" none (fun text => (addressOf text).map some) =
        .ok s.ownAddress ∧
      fromVariable env "PACRESOLVER_EVALUATION_TIMEOUT" ({} : Limits).timeout timeoutOf =
        .ok s.limits.timeout := by
  obtain ⟨source, hsource, h⟩ := eq_ok_of_bind h
  obtain ⟨address, haddress, h⟩ := eq_ok_of_bind h
  obtain ⟨timeout, htimeout, h⟩ := eq_ok_of_bind h
  obtain ⟨level, _, h⟩ := eq_ok_of_bind h
  obtain rfl := eq_of_checked h
  exact ⟨hsource, haddress, htimeout⟩

/-! ### The three settings -/

theorem lawful_sourceSetting : sourceSetting.Lawful where
  ofDocument := by
    intro d s h
    obtain ⟨given, hgiven, hscript, -, -⟩ := sections_of_ofDocument? h
    exact eq_of_section ScriptSettings.source hgiven hscript fun v b => source_of_script?
  ofEnvironment := by
    intro env s h
    exact eq_of_fromVariable (variables_of_ofEnvironment h).1
  apply := by
    intro o s
    cases hscript : o.script <;> simp [sourceSetting, Options.apply, override, Options.overrides, hscript]

theorem lawful_addressSetting : addressSetting.Lawful where
  ofDocument := by
    intro d s h
    obtain ⟨given, hgiven, -, -, haddress⟩ := sections_of_ofDocument? h
    exact eq_of_section id hgiven haddress fun v b => value_of_single?
  ofEnvironment := by
    intro env s h
    exact eq_of_fromVariable (variables_of_ofEnvironment h).2.1
  apply := by
    intro o s
    cases haddress : o.ownAddress <;>
      simp [addressSetting, Options.apply, override, Options.overrides, haddress]

theorem lawful_timeoutSetting : timeoutSetting.Lawful where
  ofDocument := by
    intro d s h
    obtain ⟨given, hgiven, -, hlimits, -⟩ := sections_of_ofDocument? h
    exact eq_of_section Limits.timeout hgiven hlimits fun v b => timeout_of_limits?
  ofEnvironment := by
    intro env s h
    exact eq_of_fromVariable (variables_of_ofEnvironment h).2.2
  apply := by
    intro o s
    cases htimeout : o.timeoutSeconds <;>
      simp [timeoutSetting, Options.apply, override, Options.overrides, htimeout]

end Settings

end AutoProxy
