import Mathlib.Algebra.Ring.Nat
import Mathlib.Data.List.Forall2
import AutoProxy.Proofs.Answer.Notation
import AutoProxy.Proofs.CommandLine.Attempts
import AutoProxy.Proofs.Decimal
import AutoProxy.Proofs.Text
import AutoProxy.Text.Json

/-!
The lines that a command prints. A text that is put together from records by closing each of them (`closed`) has
the records as its lines exactly if there is no line break in them; and as soon as there is one, it has more lines
than records (`hasHeads_closed_iff`). Values in the JSON notation have no control characters in their text,
whatever the texts in them are (`isPrintable_toText`).

So answers as values are always one line for each lookup. Answers as text are one line for each lookup that
succeeds as long as the script puts no line break into the host of a proxy or into what it throws
(`mem_selection_toText_iff`), and as soon as it does, there are more lines than lookups (`output_of_runWith`):
it can then add a line that looks like the answer for another address (`output_forged`).
-/

namespace AutoProxy.Text

/-! ## Lines -/

/-- A text that consists of these lines, each of them with its end. -/
def IsLines (lines : List String) (text : String) : Prop :=
  split '\n' text.toList = lines.map String.toList ++ [[]]

instance (lines : List String) (text : String) : Decidable (IsLines lines text) :=
  inferInstanceAs (Decidable (_ = _))

/-- A text that consists of one line for each of these heads, in their order, and each line begins with its
head. -/
def HasHeads (heads : List String) (text : String) : Prop :=
  ∃ lines, IsLines lines text ∧ List.Forall₂ (fun head line => head.toList <+: line.toList) heads lines

/-- The text of records of which each is closed by the end of a line. -/
def closed (records : List String) : String := String.join (records.map (· ++ "\n"))

section Lines

variable {records heads : List String}

theorem toList_closed_cons (record : String) (records : List String) :
    (closed (record :: records)).toList = record.toList ++ '\n' :: (closed records).toList := by
  simp [closed, String.toList_join]

theorem closed_append (front back : List String) :
    closed (front ++ back) = closed front ++ closed back := by
  rw [← String.toList_inj]
  simp [closed, String.toList_join]

/-- Records without line breaks are the lines of their text. -/
theorem isLines_closed (h : ∀ record ∈ records, '\n' ∉ record.toList) : IsLines records (closed records) := by
  induction records with
  | nil => rfl
  | cons record rest ih =>
      rw [List.forall_mem_cons] at h
      rw [IsLines, toList_closed_cons, split_append_cons, split_of_not_mem h.1, ih h.2]
      rfl

theorem count_closed (records : List String) :
    (closed records).toList.count '\n' =
      (records.map fun record => record.toList.count '\n').sum + records.length := by
  induction records with
  | nil => rfl
  | cons record rest ih =>
      rw [toList_closed_cons, List.count_append, List.count_cons_self, ih, List.map_cons, List.sum_cons,
        List.length_cons]
      omega

/-- A text of records has a line for each of their heads exactly if there is no line break in them. -/
theorem hasHeads_closed_iff
    (h : List.Forall₂ (fun head record => head.toList <+: record.toList) heads records) :
    HasHeads heads (closed records) ↔ ∀ record ∈ records, '\n' ∉ record.toList := by
  constructor
  · rintro ⟨lines, hlines, hheads⟩
    have hlength : lines.length = records.length := hheads.length_eq.symm.trans h.length_eq
    have hcount : (closed records).toList.count '\n' = lines.length := by
      have hsplit := congrArg List.length hlines
      rw [length_split, List.length_append, List.length_map] at hsplit
      exact Nat.add_right_cancel hsplit
    have hsum : (records.map fun record => record.toList.count '\n').sum = 0 := by
      have := count_closed records
      omega
    intro record hrecord
    have hzero := List.sum_eq_zero_iff_forall_eq_nat.mp hsum _ (List.mem_map_of_mem hrecord)
    exact List.count_eq_zero.mp hzero
  · intro hbreaks
    exact ⟨records, isLines_closed hbreaks, h⟩

end Lines

end AutoProxy.Text

/-! ## The JSON notation -/

namespace AutoProxy.Text

/-- A text without control characters, as far as these come before the blank. -/
def IsPrintable (s : String) : Prop := ∀ c ∈ s.toList, 32 ≤ c.toNat

instance (s : String) : Decidable (IsPrintable s) :=
  decidable_of_iff (s.toList.all fun c => 32 ≤ c.toNat) (by simp [IsPrintable])

theorem IsPrintable.append {s t : String} (hs : IsPrintable s) (ht : IsPrintable t) : IsPrintable (s ++ t) := by
  intro c hc
  rw [String.toList_append, List.mem_append] at hc
  exact hc.elim (hs c) (ht c)

/-- There is no line break in such a text. -/
theorem IsPrintable.not_mem {s : String} (h : IsPrintable s) : '\n' ∉ s.toList :=
  fun hmem => absurd (h _ hmem) (by decide)

/-! ### Between quotes -/

theorem le_toNat_of_mem_encodeChar {c d : Char} (h : d ∈ Quoted.encodeChar c) : 32 ≤ d.toNat := by
  unfold Quoted.encodeChar at h
  split at h
  case h_8 =>
    split at h
    · have hhex : ∀ n < 16, 32 ≤ (Nat.digitChar n).toNat := by decide
      have hhigh := hhex (c.toNat / 16) (by omega)
      have hlow := hhex (c.toNat % 16) (Nat.mod_lt _ (by decide))
      simp only [List.mem_cons, List.not_mem_nil, or_false] at h
      rcases h with rfl | rfl | rfl | rfl | rfl | rfl
      all_goals first | exact hhigh | exact hlow | decide
    · rw [List.mem_singleton.mp h]
      omega
  all_goals
    simp only [List.mem_cons, List.not_mem_nil, or_false] at h
    rcases h with rfl | rfl <;> decide

theorem isPrintable_quoted (s : String) : IsPrintable (Quoted.quoted s) := by
  intro c hc
  rw [Quoted.quoted, String.toList_ofList, Quoted.encode, List.mem_cons, List.mem_append,
    List.mem_flatMap, List.mem_singleton] at hc
  rcases hc with rfl | ⟨d, -, hd⟩ | rfl
  · decide
  · exact le_toNat_of_mem_encodeChar hd
  · decide

/-! ### Values -/

namespace Json

theorem isPrintable_number (n : Nat) : IsPrintable (toString n) := by
  intro c hc
  have hdigit : c.isDigit = true := by
    rw [Nat.toString_eq_repr, Nat.repr, String.toList_ofList] at hc
    exact Nat.isDigit_of_mem_toDigits (by decide) (by decide) hc
  have hrange := Number.toNat_of_isDigit hdigit
  omega

mutual

/-- The text of a value has no control characters; with it go the texts of the items and of the fields that
it is put together from. -/
theorem isPrintable_toText : (value : Json) → IsPrintable value.toText
  | .number n => isPrintable_number n
  | .text s => isPrintable_quoted s
  | .list items => by
      have hopened := IsPrintable.append (by decide : IsPrintable "[") (isPrintable_itemsText items)
      exact hopened.append (by decide)
  | .object fields => by
      have hopened := IsPrintable.append (by decide : IsPrintable "\x7b") (isPrintable_fieldsText fields)
      exact hopened.append (by decide)

theorem isPrintable_itemsText : (items : List Json) → IsPrintable (itemsText items)
  | [] => by decide
  | [item] => isPrintable_toText item
  | item :: next :: rest => by
      have hitem := (isPrintable_toText item).append (by decide : IsPrintable ",")
      exact hitem.append (isPrintable_itemsText (next :: rest))

theorem isPrintable_fieldsText : (fields : List (String × Json)) → IsPrintable (fieldsText fields)
  | [] => by decide
  | [(name, value)] => by
      have hname := (isPrintable_quoted name).append (by decide : IsPrintable ":")
      exact hname.append (isPrintable_toText value)
  | (name, value) :: next :: rest => by
      have hname := (isPrintable_quoted name).append (by decide : IsPrintable ":")
      have hfield := (hname.append (isPrintable_toText value)).append (by decide : IsPrintable ",")
      exact hfield.append (isPrintable_fieldsText (next :: rest))

end

end Json

end AutoProxy.Text

/-! ## What a command prints -/

namespace AutoProxy

open Text

/-! ### Selections -/

/-- The script has put a line break into a selection: into the host of a candidate, or into what is said of
its failure. -/
def Selection.HasLineBreak : Selection → Prop
  | .proxies candidates => ∃ c ∈ candidates, ∃ e ∈ c.endpoint?, '\n' ∈ e.host.toList
  | .noDecision .bypassed => False
  | .noDecision (.evaluationFailed message) => '\n' ∈ message.toList

instance (s : Selection) : Decidable s.HasLineBreak :=
  match s with
  | .proxies candidates =>
    inferInstanceAs (Decidable (∃ c ∈ candidates, ∃ e ∈ c.endpoint?, '\n' ∈ e.host.toList))
  | .noDecision .bypassed => inferInstanceAs (Decidable False)
  | .noDecision (.evaluationFailed message) => inferInstanceAs (Decidable ('\n' ∈ message.toList))

section Selections

theorem mem_endpoint_toText_iff {e : Endpoint} : '\n' ∈ e.toText.toList ↔ '\n' ∈ e.host.toList := by
  have hport : '\n' ∉ Nat.toDigits 10 e.port.toNat := Answer.not_mem_port (by decide)
  rw [Answer.toList_endpoint_toText]
  split <;> simp [hport]

theorem mem_candidate_toText_iff {c : Candidate} :
    '\n' ∈ c.toText.toList ↔ ∃ e ∈ c.endpoint?, '\n' ∈ e.host.toList := by
  cases c with
  | direct => simp [Candidate.toText, Candidate.endpoint?]
  | proxy p e =>
      have hkeyword : '\n' ∉ p.keyword.toList := by cases p <;> decide
      simp [Candidate.toText, Candidate.endpoint?, hkeyword, mem_endpoint_toText_iff]

theorem mem_listText_iff {cs : List Candidate} :
    '\n' ∈ (Candidate.listText cs).toList ↔ ∃ c ∈ cs, '\n' ∈ c.toText.toList := by
  induction cs with
  | nil => simp [Candidate.listText]
  | cons c rest ih =>
      cases rest with
      | nil => simp [Candidate.listText]
      | cons d more =>
          rw [Answer.toList_listText_cons_cons, List.exists_mem_cons_iff, ← ih]
          simp

/-- A selection stands on one line exactly if the script has put no line break into it. -/
theorem mem_selection_toText_iff {s : Selection} : '\n' ∈ s.toText.toList ↔ s.HasLineBreak := by
  cases s with
  | proxies candidates =>
      rw [Selection.toText, mem_listText_iff, Selection.HasLineBreak]
      simp only [mem_candidate_toText_iff]
  | noDecision why =>
      cases why with
      | bypassed => simp [Selection.toText, Undecided.message, Selection.HasLineBreak]
      | evaluationFailed message => simp [Selection.toText, Undecided.message, Selection.HasLineBreak]

end Selections

namespace CommandLine

/-! ### Printing -/

/-- What an event adds to the output. -/
def Event.text? : Event → Option String
  | print text => some text
  | log _ => none

def printed (events : List Event) : String := String.join (events.filterMap Event.text?)

section Printing

variable {E : Type} {events more : List Event} {l : Lookups E} {attempts : List Attempt}

theorem printed_append (events more : List Event) :
    printed (events ++ more) = printed events ++ printed more := by
  rw [← String.toList_inj]
  simp [printed, String.toList_join]

theorem printed_of_isLog (h : ∀ event ∈ events, event.IsLog) : printed events = "" := by
  have hnone : events.filterMap Event.text? = [] := by
    rw [List.filterMap_eq_nil_iff]
    intro event hevent
    cases event with
    | print text => exact (h _ hevent).elim
    | log line => rfl
  rw [printed, hnone]
  rfl

/-- What is printed for attempts, without the ends of lines. -/
def recordsOf (json : Bool) (attempts : List Attempt) : List String := attempts.filterMap (Attempt.line? json)

theorem recordsOf_cons (json : Bool) (a : Attempt) (rest : List Attempt) :
    recordsOf json (a :: rest) = (a.line? json).toList ++ recordsOf json rest := by
  rw [recordsOf, List.filterMap_cons]
  cases a.line? json <;> rfl

theorem printed_shown (l : Lookups E) (a : Attempt) :
    printed (l.shown a) = closed (a.line? l.json).toList := by
  rw [Lookups.shown, printed_append, printed_of_isLog (isLog_logged _ _)]
  cases a.line? l.json <;> rfl

theorem printed_flatMap_shown (l : Lookups E) (attempts : List Attempt) :
    printed (attempts.flatMap l.shown) = closed (recordsOf l.json attempts) := by
  induction attempts with
  | nil => rfl
  | cons a rest ih =>
      rw [List.flatMap_cons, printed_append, printed_shown, ih, recordsOf_cons, closed_append]

theorem printed_lookUpGiven {evaluator : Evaluator E} {site : Nat → Site} {o : Options}
    {input : List UInt8} (hmetrics : o.metrics = false) :
    printed (lookUpGiven evaluator site o l input).events =
      closed (recordsOf l.json (lookUpGiven evaluator site o l input).attempts) := by
  rw [lookUpGiven]
  rcases l.lookUpAll evaluator (placed site 0 (itemsOf o input)) with ⟨attempts, _ | after⟩
  · exact printed_flatMap_shown l attempts
  · have hclosing : ∀ event ∈ after.closing o.metrics, event.IsLog := by
      rw [Lookups.closing, hmetrics]
      exact isLog_logged _ _
    simp only [printed_append, printed_flatMap_shown, printed_of_isLog hclosing, String.append_empty]

/-- A run prints what it prints for its lookups, unless it is asked for the counters. -/
theorem printed_runWith {first : Site} {site : Nat → Site} {o : Options} {input : List UInt8}
    {outcome : Outcome} (hmetrics : o.metrics = false) (hrun : runWith first site o input = outcome) :
    printed outcome.events = closed (recordsOf o.json outcome.attempts) := by
  subst hrun
  rcases hstart : start first o with ⟨before, _ | _ | l⟩
  · rw [runWith, hstart]
    exact printed_of_isLog (isLog_of_start hstart)
  · rw [runWith, hstart]
    exact printed_of_isLog (isLog_of_start hstart)
  · rw [runWith_of_start hstart, ← (isNew_of_start hstart).2]
    simp only [printed_append, printed_of_isLog (isLog_of_start hstart), printed_lookUpGiven hmetrics,
      String.empty_append]

end Printing

/-! ### Lines of lookups -/

section Records

variable {attempts : List Attempt}

/-- What the lines of the lookups that succeed should begin with: their addresses, and a tab. -/
def headsOf (attempts : List Attempt) : List String :=
  (attempts.filter fun a => !a.isFailed).map fun a => a.url ++ "\t"

/-- The script has put a line break into what comes of a lookup. -/
def Attempt.HasLineBreak (a : Attempt) : Prop := ∃ s ∈ a.result.toOption, s.HasLineBreak

instance (a : Attempt) : Decidable a.HasLineBreak :=
  inferInstanceAs (Decidable (∃ s ∈ a.result.toOption, s.HasLineBreak))

/-- As values, all attempts stand on one line each. -/
theorem recordsOf_json (attempts : List Attempt) :
    recordsOf true attempts = attempts.map (fun a => a.toJson.toText) ∧
      ∀ record ∈ recordsOf true attempts, '\n' ∉ record.toList := by
  have hline : Attempt.line? true = some ∘ fun a => a.toJson.toText := rfl
  have hrecords : recordsOf true attempts = attempts.map fun a => a.toJson.toText := by
    rw [recordsOf, hline, List.filterMap_eq_map]
  refine ⟨hrecords, ?_⟩
  rw [hrecords, List.forall_mem_map]
  exact fun a _ => (Json.isPrintable_toText a.toJson).not_mem

theorem forall₂_headsOf (attempts : List Attempt) :
    List.Forall₂ (fun head record => head.toList <+: record.toList) (headsOf attempts)
      (recordsOf false attempts) := by
  induction attempts with
  | nil => exact .nil
  | cons a rest ih =>
      rw [headsOf, recordsOf_cons, List.filter_cons]
      obtain ⟨url, failure | selection⟩ := a
      · exact ih
      · refine .cons ?_ ih
        simp

theorem recordsOf_text (hurls : ∀ a ∈ attempts, '\n' ∉ a.url.toList) :
    (∀ record ∈ recordsOf false attempts, '\n' ∉ record.toList) ↔ ∀ a ∈ attempts, ¬ a.HasLineBreak := by
  induction attempts with
  | nil => simp [recordsOf]
  | cons a rest ih =>
      rw [List.forall_mem_cons] at hurls
      rw [recordsOf_cons, List.forall_mem_append, List.forall_mem_cons, ih hurls.2]
      obtain ⟨url, failure | selection⟩ := a
      · simp [Attempt.line?, Attempt.HasLineBreak, Except.toOption]
      · have hurl : '\n' ∉ url.toList := hurls.1
        simp [Attempt.line?, Attempt.HasLineBreak, Except.toOption, mem_selection_toText_iff, hurl]

end Records

/-! ### The output -/

/-- What a command prints that is not asked for the counters. With answers as values it is one line for each
lookup, in the order of the addresses that it was given. Otherwise it is one line for each lookup that succeeds,
which begins with the address and a tab, exactly if the script has put no line break into a host or into the
text of a failure; and then the lines are those of the answers. A command that begins its lookups makes all of
them, unless an instant outside the calendar stops it. -/
theorem output_of_runWith {first : Site} {site : Nat → Site} {o : Options} {input : List UInt8}
    {lines : List String} {outcome : Outcome} (hlines : o.readsInput = true → IsInput lines input)
    (hurls : ∀ url ∈ given o lines, '\n' ∉ url.toList) (hmetrics : o.metrics = false)
    (hrun : runWith first site o input = outcome) :
    (outcome.attempts.map Attempt.url <+: given o lines ∧
        (Begins first o → outcome.result ≠ .error .outOfCalendar →
          outcome.attempts.map Attempt.url = given o lines)) ∧
      (o.json = true →
        IsLines (outcome.attempts.map fun a => a.toJson.toText) (printed outcome.events)) ∧
      (o.json = false →
        (HasHeads (headsOf outcome.attempts) (printed outcome.events) ↔
          ∀ a ∈ outcome.attempts, ¬ a.HasLineBreak) ∧
        ((∀ a ∈ outcome.attempts, ¬ a.HasLineBreak) →
          IsLines (recordsOf false outcome.attempts) (printed outcome.events))) := by
  have hprinted := printed_runWith hmetrics hrun
  have hgiven := urls_of_runWith hlines hrun
  have hattempts : ∀ a ∈ outcome.attempts, '\n' ∉ a.url.toList := fun a ha =>
    hurls _ (hgiven.1.subset (List.mem_map_of_mem ha))
  refine ⟨hgiven, fun hjson => ?_, fun hjson => ?_⟩
  · obtain ⟨hrecords, hbreaks⟩ := recordsOf_json outcome.attempts
    rw [hprinted, hjson, ← hrecords]
    exact isLines_closed hbreaks
  · rw [hprinted, hjson, hasHeads_closed_iff (forall₂_headsOf _), recordsOf_text hattempts]
    exact ⟨Iff.rfl, fun hnone => isLines_closed ((recordsOf_text hattempts).mpr hnone)⟩

/-- An address that is refused, and one for which the script has an answer. -/
theorem output_of_runWith_answered :
    let site := siteWith (some "function FindProxyForURL(u, h) \x7b return 'PROXY b:80; DIRECT'; \x7d")
    let o : Options := { script := some "p.pac", urls := ["nonsense", "http://[::1]/"] }
    let outcome := runWith site (fun _ => site) o []
    outcome.attempts.map Attempt.url = ["nonsense", "http://[::1]/"] ∧
      HasHeads ["http://[::1]/\t"] (printed outcome.events) := by
  intro site o outcome
  have hgiven : Begins site o ∧ given o [] = ["nonsense", "http://[::1]/"] ∧
      ∀ url ∈ given o [], '\n' ∉ url.toList := by decide +kernel
  have hlines : o.readsInput = true → IsInput [] [] := fun h => nomatch h
  have hrun : outcome.result ≠ .error .outOfCalendar ∧ (∀ a ∈ outcome.attempts, ¬ a.HasLineBreak) ∧
      headsOf outcome.attempts = ["http://[::1]/\t"] := by decide +kernel
  obtain ⟨hbegins, hurls, hbreaks⟩ := hgiven
  obtain ⟨hresult, hnone, hheads⟩ := hrun
  obtain ⟨hlookups, -, htext⟩ := output_of_runWith hlines hbreaks rfl (rfl : _ = outcome)
  refine ⟨(hlookups.2 hbegins hresult).trans hurls, ?_⟩
  rw [← hheads]
  exact (htext rfl).1.mpr hnone

/-- The host of a proxy may hold a line of its own, which then looks like the answer for an address that
nobody has asked for. -/
theorem output_forged :
    let site := siteWith
      (some "function FindProxyForURL(u, h) \x7b return 'PROXY a\\nhttp://i/\\tPROXY b:1'; \x7d")
    let outcome :=
      runWith site (fun _ => site) { script := some "p.pac", urls := ["http://[::1]/"] } []
    IsLines ["http://[::1]/\tPROXY [a", "http://i/\tPROXY b:1]:80"] (printed outcome.events) := by
  decide +kernel

end CommandLine

end AutoProxy
