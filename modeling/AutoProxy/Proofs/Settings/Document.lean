import AutoProxy.Proofs.Address.Notation
import AutoProxy.Proofs.Span
import AutoProxy.Settings.Basic

/-!
Settings and their document. Every single value is read as it was written, and so are whole settings, also when any
of their sections and fields are removed from the document: the fields that are kept have the values that were
written, and those that are removed have their defaults, which a removed section gives to all of its fields
(`ofDocument?_toDocument`).
-/

namespace AutoProxy.Settings

/-! ### Single values -/

theorem optional_orNull {α : Type} {read : Document → Option α} {write : α → Document}
    (hread : ∀ a, read (write a) = some a) (hnull : ∀ a, write a ≠ .null) (value : Option α) :
    Document.optional read (orNull write value) = some value := by
  cases value with
  | none => rfl
  | some a =>
      rw [orNull, Document.optional]
      · rw [hread]
        rfl
      · exact hnull a

theorem text?_text (s : String) : Document.text? (.text s) = some s := rfl

theorem bool?_bool (b : Bool) : Document.bool? (.bool b) = some b := rfl

theorem span?_spanDocument (s : Span) : span? (spanDocument s) = some s := by
  simp only [span?, spanDocument, Document.text?, Option.bind_some, Span.ofText_toText, Except.toOption]

theorem word?_wordDocument (w : UInt64) : Document.word? (wordDocument w) = some w := by
  have hlt : (w.toNat : Int) < Number.wordLimit := by exact_mod_cast w.toNat_lt
  rw [wordDocument, Document.word?, if_pos ⟨Int.natCast_nonneg _, hlt⟩]
  simp

theorem address?_toText (a : Address) : address? (.text a.toText) = some a := by
  simp only [address?, Document.text?, Option.bind_some, Address.ofString?, Address.ofChars?_toText]

theorem bypass?_bypassName (b : Bypass) : bypass? (.text (bypassName b)) = some b := by
  cases b <;> rfl

/-! ### Fields that are left -/

/-- The document without the entries that are not kept. -/
def Document.restrict (keeps : String → Bool) : Document → Document
  | .table entries => .table (entries.filter fun entry => keeps entry.1)
  | d => d

/-- The document without the sections that are not kept, and without the fields of the others that are not kept. -/
def Document.prune (parts : String → Bool) (keys : String → String → Bool) : Document → Document
  | .table entries => .table ((entries.filter fun entry => parts entry.1).map fun (part, d) =>
      (part, d.restrict (keys part)))
  | d => d

section Fields

variable {α : Type} {entries : List (String × Document)} {given : String → Option Document}
  {name : String} {d : Document} {value : α} {read : Document → Option α}

theorem lookup_filter (keeps : String → Bool) (entries : List (String × Document)) (name : String) :
    (entries.filter fun entry => keeps entry.1).lookup name =
      if keeps name then entries.lookup name else none := by
  induction entries with
  | nil => simp
  | cons entry rest ih =>
      obtain ⟨key, d⟩ := entry
      by_cases hname : name = key
      · subst hname
        cases hkeeps : keeps name <;> simp [hkeeps, ih]
      · have hother : (name == key) = false := beq_eq_false_iff_ne.mpr hname
        cases hkeeps : keeps key <;> simp [hkeeps, List.lookup_cons, hother, ih]

theorem lookup_map (f : String → Document → Document) (entries : List (String × Document)) (name : String) :
    (entries.map fun (key, d) => (key, f key d)).lookup name = (entries.lookup name).map (f name) := by
  induction entries with
  | nil => rfl
  | cons entry rest ih =>
      obtain ⟨key, d⟩ := entry
      by_cases hname : name = key
      · subst hname
        simp
      · have hother : (name == key) = false := beq_eq_false_iff_ne.mpr hname
        simp [List.lookup_cons, hother, ih]

/-- A field that is kept has the value that is read, and one that is not has the default. -/
theorem field?_eq {keeps : Bool} (hgiven : given name = if keeps then some d else none)
    (hread : read d = some value) (default : α) :
    Document.field? given name default read = some (if keeps then value else default) := by
  rw [Document.field?, hgiven]
  cases keeps with
  | true => simpa using hread
  | false => rfl

theorem fields?_restrict (keeps : String → Bool) (entries : List (String × Document)) (names : List String) :
    ((Document.table entries).restrict keeps).fields? names =
      some fun name => if keeps name then entries.lookup name else none := by
  simp only [Document.restrict, Document.fields?, lookup_filter]

theorem fields?_prune (parts : String → Bool) (keys : String → String → Bool)
    (entries : List (String × Document)) (names : List String) :
    ((Document.table entries).prune parts keys).fields? names =
      some fun part => if parts part then (entries.lookup part).map (Document.restrict (keys part)) else none := by
  simp only [Document.prune, Document.fields?, lookup_map fun part => Document.restrict (keys part),
    lookup_filter, apply_ite (Option.map _), Option.map_none]

end Fields

/-! ### Settings that are left -/

/-- The settings of a script of which those that are not kept have their defaults. -/
def keptScript (keeps : String → Bool) (s : ScriptSettings) : ScriptSettings :=
  let default : ScriptSettings := {}
  { source := if keeps "source" then s.source else default.source
    connectTimeout := if keeps "connect_timeout" then s.connectTimeout else default.connectTimeout
    readTimeout := if keeps "read_timeout" then s.readTimeout else default.readTimeout
    fallbackTtl := if keeps "fallback_ttl" then s.fallbackTtl else default.fallbackTtl
    watch := if keeps "watch" then s.watch else default.watch }

/-- The limits of which those that are not kept have their defaults. -/
def keptLimits (keeps : String → Bool) (l : Limits) : Limits :=
  let default : Limits := {}
  { timeout := if keeps "evaluation_timeout" then l.timeout else default.timeout
    loopIterations := if keeps "loop_iteration_limit" then l.loopIterations else default.loopIterations
    recursion := if keeps "recursion_limit" then l.recursion else default.recursion }

/-- The settings of which those that are not kept have their defaults; the first name is that of the section, the
second one that of the field. -/
def kept (keeps : String → String → Bool) (s : Settings) : Settings :=
  let default : Settings := {}
  { script := keptScript (keeps "script") s.script
    limits := keptLimits (keeps "engine") s.limits
    ownAddress := if keeps "predicates" "local_ip_override" then s.ownAddress else default.ownAddress
    bypass := if keeps "resolver" "bypass" then s.bypass else default.bypass
    logLevel := if keeps "logging" "level" then s.logLevel else default.logLevel }

theorem script?_restrict (keeps : String → Bool) (s : ScriptSettings) :
    script? ((scriptDocument s).restrict keeps) = some (keptScript keeps s) := by
  have hsource : Document.optional Document.text? (orNull .text s.source) = some s.source :=
    optional_orNull text?_text (by simp) s.source
  have hfallback : Document.optional span? (orNull spanDocument s.fallbackTtl) = some s.fallbackTtl :=
    optional_orNull span?_spanDocument (by simp [spanDocument]) s.fallbackTtl
  rw [script?, scriptDocument, fields?_restrict]
  simp only [Option.bind_eq_bind, Option.bind_some]
  rw [field?_eq rfl hsource, field?_eq rfl (span?_spanDocument _), field?_eq rfl (span?_spanDocument _),
    field?_eq rfl hfallback, field?_eq rfl (bool?_bool _)]
  rfl

theorem limits?_restrict (keeps : String → Bool) (l : Limits) :
    limits? ((limitsDocument l).restrict keeps) = some (keptLimits keeps l) := by
  rw [limits?, limitsDocument, fields?_restrict]
  simp only [Option.bind_eq_bind, Option.bind_some]
  rw [field?_eq rfl (span?_spanDocument _), field?_eq rfl (word?_wordDocument _),
    field?_eq rfl (word?_wordDocument _)]
  rfl

theorem single?_restrict {α : Type} {name : String} {d : Document} {value : α} {read : Document → Option α}
    (keeps : String → Bool) (default : α) (hread : read d = some value) :
    single? name default read ((Document.table [(name, d)]).restrict keeps) =
      some (if keeps name then value else default) := by
  have hlookup : [(name, d)].lookup name = some d := by simp
  rw [single?, fields?_restrict]
  simp only [Option.bind_eq_bind, Option.bind_some]
  exact field?_eq (by rw [hlookup]) hread default

/-- A section that is removed has no field that is kept. -/
theorem ite_part {α : Type} (part : Bool) (keys : String → Bool) (of : (String → Bool) → α) :
    (if part then of keys else of fun _ => false) = of fun key => part && keys key := by
  cases part <;> rfl

theorem ofDocument?_prune (s : Settings) (parts : String → Bool) (keys : String → String → Bool) :
    ofDocument? (s.toDocument.prune parts keys) =
      some (s.kept fun part key => parts part && keys part key) := by
  have haddress : Document.optional address? (orNull (fun a => .text a.toText) s.ownAddress) =
      some s.ownAddress := optional_orNull address?_toText (by simp) s.ownAddress
  rw [ofDocument?, toDocument, fields?_prune]
  simp only [Option.bind_eq_bind, Option.bind_some]
  rw [field?_eq rfl (script?_restrict _ _), field?_eq rfl (limits?_restrict _ _),
    field?_eq rfl (single?_restrict _ _ haddress), field?_eq rfl (single?_restrict _ _ (bypass?_bypassName _)),
    field?_eq rfl (single?_restrict _ _ (text?_text _))]
  refine congrArg some ?_
  rw [kept, mk.injEq]
  exact ⟨ite_part _ _ fun keeps => keptScript keeps s.script,
    ite_part _ _ fun keeps => keptLimits keeps s.limits,
    ite_part _ _ fun keeps => if keeps "local_ip_override" then s.ownAddress else none,
    ite_part _ _ fun keeps => if keeps "bypass" then s.bypass else .scriptText,
    ite_part _ _ fun keeps => if keeps "level" then s.logLevel else "info"⟩

/-- Settings are read from what is left of their document, whichever sections and fields are removed: what is kept as
it was written, and the rest as its defaults. From the whole document they are read as they are. -/
theorem ofDocument?_toDocument (s : Settings) (parts : String → Bool) (keys : String → String → Bool) :
    ofDocument? (s.toDocument.prune parts keys) =
        some (s.kept fun part key => parts part && keys part key) ∧
      ofDocument? s.toDocument = some s :=
  ⟨ofDocument?_prune s parts keys, ofDocument?_prune s (fun _ => true) fun _ _ => true⟩

end AutoProxy.Settings
