import Mathlib.Data.List.Forall2
import AutoProxy.CommandLine.Run

/-!
What a command begins with. The addresses that it is given are those of its arguments and then the lines of
its input, the blanks around them left out, but neither empty lines nor remarks (`urlsOf_itemsOf`). The state
before the first lookup has counted nothing (`isNew_of_start`), and all that has happened until then is in
the log (`isLog_of_start`).
-/

namespace AutoProxy.CommandLine

/-! ### Items -/

namespace Item

def url? (item : Item) : Option String := item.read.toOption.join

/-- An item that can be read: an argument, or a line that is a text. -/
def IsText (item : Item) : Prop := item.read ≠ .error .badInput

end Item

def urlsOf (items : List Item) : List String := items.filterMap Item.url?

/-- An input that consists of these lines. -/
def IsInput (lines : List String) (input : List UInt8) : Prop :=
  List.Forall₂ (fun row line => Text.Utf8.decode? row = some line.toList) (linesOf input) lines

instance (lines : List String) (input : List UInt8) : Decidable (IsInput lines input) :=
  inferInstanceAs (Decidable (List.Forall₂ _ _ _))

/-- A line that is neither empty nor a remark. -/
def isAddress (line : String) : Bool := line ≠ "" && line.toList.head? ≠ some '#'

/-- The addresses that a command is given: those of its arguments and, if it reads its input, the lines of
it without the blanks around them, but no line that is then empty or a remark. -/
def given (o : Options) (lines : List String) : List String :=
  o.urls ++ if o.readsInput then (lines.map Text.trimmed).filter isAddress else []

section Given

variable {o : Options} {lines : List String} {input : List UInt8} {row : List UInt8} {line : String}

theorem read_line (h : Text.Utf8.decode? row = some line.toList) :
    (Item.line row).read =
      .ok (if isAddress (Text.trimmed line) then some (Text.trimmed line) else none) := by
  have hempty : (Text.trim line.toList).isEmpty = decide (Text.trimmed line = "") := by
    rw [Bool.eq_iff_iff, decide_eq_true_iff, List.isEmpty_iff, ← String.toList_inj, Text.trimmed,
      String.toList_ofList, String.toList_empty]
  rw [Item.read, h]
  simp only [urlIn?, isAddress, hempty]
  by_cases hblank : Text.trimmed line = ""
  · simp [hblank]
  · by_cases hremark : (Text.trim line.toList).head? = some '#' <;> simp [Text.trimmed, hremark]

theorem urlsOf_arguments (urls : List String) : urlsOf (urls.map .argument) = urls := by
  rw [urlsOf, List.filterMap_map]
  exact List.filterMap_some

theorem urlsOf_lines {rows : List (List UInt8)}
    (h : List.Forall₂ (fun row line => Text.Utf8.decode? row = some line.toList) rows lines) :
    urlsOf (rows.map .line) = (lines.map Text.trimmed).filter isAddress ∧
      ∀ row ∈ rows, (Item.line row).IsText := by
  induction h with
  | nil => exact ⟨rfl, List.forall_mem_nil _⟩
  | @cons row line rows lines hrow _ ih =>
      have hread := read_line hrow
      have htext : (Item.line row).IsText := by
        intro hbad
        rw [hread] at hbad
        cases hbad
      refine ⟨?_, List.forall_mem_cons.mpr ⟨htext, ih.2⟩⟩
      rw [List.map_cons, urlsOf, List.filterMap_cons, Item.url?, hread, List.map_cons, List.filter_cons,
        ← ih.1]
      cases isAddress (Text.trimmed line) <;> rfl

/-- The addresses of the items of a run are those that it is given, and its items can all be read. -/
theorem urlsOf_itemsOf (h : o.readsInput = true → IsInput lines input) :
    urlsOf (itemsOf o input) = given o lines ∧ ∀ item ∈ itemsOf o input, item.IsText := by
  have harguments : ∀ item ∈ o.urls.map Item.argument, item.IsText := by
    intro item hitem
    obtain ⟨url, -, rfl⟩ := List.mem_map.mp hitem
    exact fun hbad => nomatch hbad
  have hurls : urlsOf (itemsOf o input) =
      o.urls ++ urlsOf (if o.readsInput then (linesOf input).map .line else []) := by
    rw [itemsOf, urlsOf, List.filterMap_append]
    exact congrArg (· ++ _) (urlsOf_arguments o.urls)
  rw [hurls, given, itemsOf]
  split
  · next hreads =>
    obtain ⟨hlines, htexts⟩ := urlsOf_lines (h hreads)
    rw [hlines]
    exact ⟨rfl, List.forall_mem_append.mpr ⟨harguments, List.forall_mem_map.mpr htexts⟩⟩
  · simp only [List.append_nil]
    exact ⟨List.append_nil _, harguments⟩

end Given

/-- Items keep their order when each is given a site. -/
theorem map_snd_placed (site : Nat → Site) (n : Nat) (items : List Item) :
    (placed site n items).map Prod.snd = items := by
  induction items generalizing n with
  | nil => rfl
  | cons item rest ih => rw [placed, List.map_cons, ih]

/-! ### The first state -/

/-- A state in which nothing has been looked up. -/
structure Lookups.IsNew {E : Type} (l : Lookups E) : Prop where
  failures : l.failures = 0
  tally : l.resolver.tally = {}

section Start

variable {site : Site} {o : Options} {s : Settings} {threshold : Threshold} {l : Lookups Script.Engine}
  {resolver : Resolver Script.Engine} {lookup : Lookup}

theorem tally_of_ofSettings (h : Resolver.ofSettings s lookup = .ok resolver) : resolver.tally = {} := by
  unfold Resolver.ofSettings Resolver.ofSource at h
  repeat' split at h
  all_goals cases h
  rfl

theorem isNew_of_lookupsOf (h : lookupsOf site o s threshold = .ok l) : l.IsNew ∧ l.json = o.json := by
  unfold lookupsOf at h
  split at h
  · cases h
  cases htime : timeOf o with
  | error fault => rw [htime] at h; cases h
  | ok fixedTime =>
      cases hsetup : Resolver.ofSettings s site.lookup with
      | error fault => rw [htime, hsetup] at h; cases h
      | ok resolver =>
          rw [htime, hsetup] at h
          cases h
          exact ⟨⟨rfl, tally_of_ofSettings hsetup⟩, rfl⟩

/-- The state before the first lookup is a new one, which writes answers as the options say. -/
theorem isNew_of_start {before : List Event} (h : start site o = (before, .ok (.ready l))) :
    l.IsNew ∧ l.json = o.json := by
  unfold start at h
  split at h
  · cases h
  · next s threshold _ =>
    split at h
    · cases h
    · cases hlookups : lookupsOf site o s threshold with
      | error fault => rw [hlookups] at h; cases h
      | ok lookups =>
          rw [hlookups] at h
          cases h
          exact isNew_of_lookupsOf hlookups

/-- A run that starts at a site gets as far as its lookups. -/
def Begins (site : Site) (o : Options) : Prop :=
  ∃ before l, start site o = (before, .ok (.ready l))

instance (site : Site) (o : Options) : Decidable (Begins site o) :=
  match h : start site o with
  | (before, .ok (.ready l)) => .isTrue ⟨before, l, h⟩
  | (_, .ok .checked) => .isFalse fun ⟨_, _, hready⟩ => nomatch h.symm.trans hready
  | (_, .error _) => .isFalse fun ⟨_, _, hready⟩ => nomatch h.symm.trans hready

/-- What is logged is not printed. -/
def Event.IsLog : Event → Prop
  | print _ => False
  | log _ => True

theorem isLog_logged (threshold : Threshold) (lines : List LogLine) :
    ∀ event ∈ Lookups.logged threshold lines, event.IsLog := by
  intro event hevent
  obtain ⟨line, -, rfl⟩ := List.mem_map.mp hevent
  trivial

theorem isLog_settingsOf (site : Site) (o : Options) : ∀ event ∈ (settingsOf site o).1, event.IsLog := by
  unfold settingsOf
  dsimp only
  split
  · exact isLog_logged _ _
  · split
    · exact isLog_logged _ _
    · exact List.forall_mem_append.mpr ⟨isLog_logged _ _, isLog_logged _ _⟩

/-- Before the lookups nothing is printed. -/
theorem isLog_of_start {before : List Event} {result : Except Fault Start}
    (h : start site o = (before, result)) : ∀ event ∈ before, event.IsLog := by
  have hsettings := isLog_settingsOf site o
  unfold start at h
  split at h
  · next heq =>
    rw [heq] at hsettings
    cases h
    exact hsettings
  · next heq =>
    rw [heq] at hsettings
    split at h <;> cases h
    · exact List.forall_mem_append.mpr ⟨hsettings, isLog_logged _ _⟩
    · exact hsettings

end Start

/-- A site at which `p.pac` is a file with this text, or is not there at all. -/
def siteWith (script : Option String) : Site where
  outside :=
    { read := fun path =>
        match script with
        | some text =>
          if path.toText = "p.pac" then .ok (Text.Utf8.encode text.toList) else .error .notFound
        | none => .error .notFound
      transport := fun _ => none }
  environment := fun _ => none
  clock := ⟨.midnight ⟨2026, 1, 1⟩, 0⟩
  lookup := .withoutServer

end AutoProxy.CommandLine
