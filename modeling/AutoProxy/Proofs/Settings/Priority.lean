import AutoProxy.CommandLine.Run
import AutoProxy.Proofs.Settings.Places

/-!
Which of the places that can give a setting has the word: the command line, then the file if there is one,
then the defaults; and the environment in place of the file only if there is none.

So the environment does not stand behind the file. With a file, a variable counts for nothing even for a
setting that the file leaves out, and then the setting is not what it would be if the places were taken in
the order of command line, file, environment and defaults (`follows_order_of_settingsOf`).
-/

namespace AutoProxy

namespace CommandLine

variable {α : Type} {p : Settings.Setting α} {site : Site} {o : Options} {s : Settings}
  {events : List Event} {threshold : Threshold}

def contentOf (site : Site) (o : Options) : Except FileFault (List UInt8) :=
  site.outside.read (Path.ofText o.path)

/-- The settings of a run are those that were loaded, with what the command line gives. -/
theorem settings_of_settingsOf (h : settingsOf site o = (events, .ok (s, threshold))) :
    ∃ lines loaded, s = o.apply loaded ∧
      loadSettings o.path (contentOf site o) site.environment = (lines, .ok loaded) := by
  cases hload : loadSettings o.path (site.outside.read (Path.ofText o.path)) site.environment with
  | mk lines result =>
      simp only [settingsOf, hload] at h
      cases result with
      | error fault => cases h
      | ok loaded =>
          refine ⟨lines, loaded, ?_, hload⟩
          dsimp only at h
          split at h
          · cases h
          · cases h
            rfl

/-- Settings of a file are what the file gives. -/
theorem value_of_ofFile (hp : p.Lawful) {path : String} {content : Except FileFault (List UInt8)}
    (hpresent : isPresent content = true) (h : Settings.ofFile path content = .ok s) :
    p.value s = (p.inFile content).getD p.default := by
  cases content with
  | error fault =>
      have habsent : fault.isAbsent = false := by simpa [isPresent] using hpresent
      simp [Settings.ofFile, habsent] at h
  | ok bytes =>
      simp only [Settings.ofFile] at h
      split at h
      · next text htext =>
        rw [Settings.ofFileText] at h
        split at h
        · next loaded hloaded =>
          obtain ⟨d, hd, hdocument⟩ := Option.bind_eq_some_iff.mp hloaded
          rw [Settings.eq_of_checked h, hp.ofDocument hdocument]
          simp [Settings.Setting.inFile, htext, hd]
        · cases h
      · cases h

/-- What a setting is given as, apart from the command line. -/
def given? (p : Settings.Setting α) (site : Site) (o : Options) : Option α :=
  if isPresent (contentOf site o) then p.inFile (contentOf site o)
  else p.inEnvironment site.environment

theorem value_of_settingsOf (hp : p.Lawful) (h : settingsOf site o = (events, .ok (s, threshold))) :
    p.value s = (p.given o.overrides <|> given? p site o).getD p.default := by
  obtain ⟨lines, loaded, rfl, hload⟩ := settings_of_settingsOf h
  have hloaded : p.value loaded = (given? p site o).getD p.default := by
    rw [loadSettings] at hload
    rw [given?]
    by_cases hpresent : isPresent (contentOf site o) = true
    · rw [if_pos hpresent] at hload ⊢
      exact value_of_ofFile hp hpresent (congrArg Prod.snd hload)
    · rw [if_neg hpresent] at hload ⊢
      exact hp.ofEnvironment (congrArg Prod.snd hload)
  rw [hp.apply, hloaded]
  cases p.given o.overrides <;> rfl

/-- What a setting would be if the places were taken in their order: the command line, the file, the
environment, and the default. -/
def layered (p : Settings.Setting α) (site : Site) (o : Options) : α :=
  (p.given o.overrides <|> p.inFile (contentOf site o) <|> p.inEnvironment site.environment).getD
    p.default

/-- A variable is shadowed: there is a file that leaves the setting out, as does the command line, and the
variable gives another value than the default. -/
structure IsShadowed (p : Settings.Setting α) (site : Site) (o : Options) : Prop where
  present : isPresent (contentOf site o) = true
  notGiven : p.given o.overrides = none
  notInFile : p.inFile (contentOf site o) = none
  inEnvironment : ∃ a, p.inEnvironment site.environment = some a ∧ a ≠ p.default

/-- What a setting is, and when this is what the order of the places says. -/
structure Follows (p : Settings.Setting α) (site : Site) (o : Options) (s : Settings) : Prop where
  value : p.value s = (p.given o.overrides <|> given? p site o).getD p.default
  layered_iff : p.value s = layered p site o ↔ ¬ IsShadowed p site o
  shadowed : IsShadowed p site o → p.value s = p.default

theorem inFile_of_absent (habsent : isPresent (contentOf site o) ≠ true) :
    p.inFile (contentOf site o) = none := by
  cases hcontent : contentOf site o with
  | ok bytes => exact absurd (by rw [hcontent]; rfl) habsent
  | error fault => rfl

theorem layered_of_not_isShadowed (h : ¬ IsShadowed p site o) :
    (p.given o.overrides <|> given? p site o).getD p.default = layered p site o := by
  rw [layered, given?]
  by_cases hpresent : isPresent (contentOf site o) = true
  · rw [if_pos hpresent]
    cases hgiven : p.given o.overrides with
    | some a => rfl
    | none =>
        cases hfile : p.inFile (contentOf site o) with
        | some a => rfl
        | none =>
            cases hvariable : p.inEnvironment site.environment with
            | none => rfl
            | some a =>
                by_cases ha : a = p.default
                · rw [ha]
                  rfl
                · exact absurd ⟨hpresent, hgiven, hfile, a, hvariable, ha⟩ h
  · rw [if_neg hpresent, inFile_of_absent hpresent]
    rfl

theorem default_of_isShadowed (h : IsShadowed p site o) :
    (p.given o.overrides <|> given? p site o).getD p.default = p.default := by
  rw [given?, if_pos h.present, h.notGiven, h.notInFile]
  rfl

theorem layered_ne_of_isShadowed (h : IsShadowed p site o) : layered p site o ≠ p.default := by
  obtain ⟨a, hvariable, ha⟩ := h.inEnvironment
  rw [layered, h.notGiven, h.notInFile, hvariable]
  exact ha

theorem follows_of_settingsOf (hp : p.Lawful) (h : settingsOf site o = (events, .ok (s, threshold))) :
    Follows p site o s := by
  have hvalue := value_of_settingsOf hp h
  constructor
  · exact hvalue
  · constructor
    · intro hlayered hshadowed
      apply layered_ne_of_isShadowed hshadowed
      rw [← hlayered, hvalue, default_of_isShadowed hshadowed]
    · intro hnot
      rw [hvalue, layered_of_not_isShadowed hnot]
  · intro hshadowed
    rw [hvalue, default_of_isShadowed hshadowed]

/-- For every file or none, every environment and every command line with which there are settings at all:
where the script is, the machine's own address and the time of an evaluation are what the command line
gives, or else what the file gives or, if there is no file, what the environment gives, or else the
default. This is what the order of command line, file, environment and defaults says, unless a variable is
shadowed by a file that leaves the setting out. -/
theorem follows_order_of_settingsOf (h : settingsOf site o = (events, .ok (s, threshold))) :
    Follows Settings.sourceSetting site o s ∧ Follows Settings.addressSetting site o s ∧
      Follows Settings.timeoutSetting site o s :=
  ⟨follows_of_settingsOf Settings.lawful_sourceSetting h,
    follows_of_settingsOf Settings.lawful_addressSetting h,
    follows_of_settingsOf Settings.lawful_timeoutSetting h⟩

/-- A place with a file that says where the script is, and with the address of the machine in a variable. -/
def shadowingSite : Site where
  outside :=
    { read := fun _ => .ok (Text.Utf8.encode "[script]\nsource = \"p.pac\"\n".toList)
      transport := fun _ => none }
  environment := fun name => if name = "PACRESOLVER_LOCAL_IP" then some "10.9.8.7" else none
  clock := ⟨.midnight ⟨2026, 1, 1⟩, 0⟩
  lookup := .withoutServer

/-- The settings there, with a time from the command line. -/
def shadowingSettings : Settings :=
  { script := { source := some "p.pac" }, limits := { timeout := .ofSeconds 5 } }

theorem exists_settingsOf_shadowingSite :
    ∃ events threshold, settingsOf shadowingSite { timeoutSeconds := some 5 } =
      (events, .ok (shadowingSettings, threshold)) := by
  have hsettings : (settingsOf shadowingSite { timeoutSeconds := some 5 }).2.toOption.map Prod.fst =
      some shadowingSettings := by decide +kernel
  cases hall : settingsOf shadowingSite { timeoutSeconds := some 5 } with
  | mk events result =>
      rw [hall] at hsettings
      cases result with
      | error fault => cases hsettings
      | ok known =>
          obtain ⟨s, threshold⟩ := known
          cases hsettings
          exact ⟨events, threshold, rfl⟩

/-- There each of the settings comes from another place: one from the file, one from the command line, and
the address from the defaults. -/
theorem follows_order_of_settingsOf_shadowingSite :
    ∃ events threshold, settingsOf shadowingSite { timeoutSeconds := some 5 } =
        (events, .ok (shadowingSettings, threshold)) ∧
      Follows Settings.sourceSetting shadowingSite { timeoutSeconds := some 5 } shadowingSettings ∧
      Follows Settings.addressSetting shadowingSite { timeoutSeconds := some 5 } shadowingSettings ∧
      Follows Settings.timeoutSetting shadowingSite { timeoutSeconds := some 5 } shadowingSettings := by
  obtain ⟨events, threshold, h⟩ := exists_settingsOf_shadowingSite
  exact ⟨events, threshold, h, follows_order_of_settingsOf h⟩

/-- The order of the places gives the address of the variable there, and the run has none. -/
theorem layered_ne_of_shadowingSite :
    (∃ events threshold, settingsOf shadowingSite { timeoutSeconds := some 5 } =
      (events, .ok (shadowingSettings, threshold))) ∧
    Settings.addressSetting.value shadowingSettings = none ∧
    layered Settings.addressSetting shadowingSite { timeoutSeconds := some 5 } =
      some (.v4 (.ofOctets 10 9 8 7)) := by
  refine ⟨exists_settingsOf_shadowingSite, rfl, ?_⟩
  decide +kernel

end CommandLine

end AutoProxy
