import AutoProxy.Proofs.Decimal
import AutoProxy.Span

/-!
Lengths of time and their texts. The counts that a length is written with make up the length (`total_counts`), and
the counts of one unit do not make up a longer one (`lt_of_mem_counts`), so that no number and no sum on the way is
out of bounds when they are read again. The reader goes through a row of counts by adding up one after the other
(`readFrom_row`), and therefore gives back the length that was written, whatever it is (`ofText_toText`).
-/

namespace AutoProxy.Span

open Number

/-! ### Counts of units -/

section Counts

variable {units : List Unit} {unit larger : Unit} {n count : Nat}

def total : List (Unit × Nat) → Nat
  | [] => 0
  | (unit, count) :: parts => count * unit.nanos + total parts

theorem total_counts (h : units.getLast? = some .nanosecond) : total (counts units n) = n := by
  induction units generalizing n with
  | nil => simp at h
  | cons unit rest ih =>
      rw [counts, total]
      cases rest with
      | nil =>
          obtain rfl : unit = .nanosecond := by simpa using h
          simp [counts, total, Unit.nanos]
      | cons next rest =>
          rw [ih (by simpa using h)]
          exact Nat.div_add_mod' n unit.nanos

theorem total_filter (parts : List (Unit × Nat)) :
    total (parts.filter fun (_, count) => count != 0) = total parts := by
  induction parts with
  | nil => rfl
  | cons part rest ih =>
      obtain ⟨unit, count⟩ := part
      by_cases hcount : count = 0 <;> simp [hcount, total, ih]

theorem le_of_mem_counts (h : (unit, count) ∈ counts units n) : count * unit.nanos ≤ n := by
  induction units generalizing n with
  | nil => simp [counts] at h
  | cons first rest ih =>
      rw [counts, List.mem_cons] at h
      rcases h with heq | h
      · cases heq
        exact Nat.div_mul_le_self n _
      · exact Nat.le_trans (ih h) (Nat.mod_le n _)

theorem Unit.nanos_pos (unit : Unit) : 0 < unit.nanos := by
  cases unit <;> decide

/-- Of each unit there are fewer than a longer one is made up of. -/
theorem lt_of_mem_counts (hunits : units.Pairwise fun a b => b.nanos < a.nanos)
    (h : (unit, count) ∈ counts units n) (hlarger : larger ∈ units) (hlt : unit.nanos < larger.nanos) :
    count * unit.nanos < larger.nanos := by
  induction units generalizing n with
  | nil => simp [counts] at h
  | cons first rest ih =>
      rw [List.pairwise_cons] at hunits
      rw [counts, List.mem_cons] at h
      rcases h with heq | h
      · cases heq
        rcases List.mem_cons.mp hlarger with rfl | hlarger
        · omega
        · have hshorter := hunits.1 larger hlarger
          omega
      · rcases List.mem_cons.mp hlarger with rfl | hlarger
        · exact Nat.lt_of_le_of_lt (le_of_mem_counts h) (Nat.mod_lt n larger.nanos_pos)
        · exact ih hunits.2 h hlarger

end Counts

/-! ### Names of units -/

section Names

variable {letters : List Char} {unit : Unit} {count place : Nat} {sum : Span} {shown : Nat} {first : Bool}

/-- The character may stand in the name of a unit and is read as nothing else. -/
def isPlainLetter (c : Char) : Bool := isUnitLetter c && (digitOf? 10 c).isNone && !Text.isBlank c

theorem isPlainLetter_iff {c : Char} :
    isPlainLetter c = true ↔ isUnitLetter c = true ∧ digitOf? 10 c = none ∧ Text.isBlank c = false := by
  simp [isPlainLetter, and_assoc]

/-- The letters are a name of the unit. -/
structure IsNameOf (letters : List Char) (unit : Unit) : Prop where
  ne_nil : letters ≠ []
  isLetter : letters.all isPlainLetter = true
  ofName? : Unit.ofName? (String.ofList letters) = some unit

theorem exists_isNameOf (unit : Unit) (count : Nat) :
    ∃ letters, IsNameOf letters unit ∧ (unit.countText count).toList = Nat.toDigits 10 count ++ letters := by
  have hplural {name : String} (hone : IsNameOf name.toList unit) (hmany : IsNameOf (name ++ "s").toList unit) :
      ∃ letters, IsNameOf letters unit ∧
        (toString count ++ name ++ (if count = 1 then "" else "s")).toList = Nat.toDigits 10 count ++ letters := by
    split
    · exact ⟨_, hone, by simp⟩
    · exact ⟨_, hmany, by simp⟩
  have hsole {name : String} (h : IsNameOf name.toList unit) :
      ∃ letters, IsNameOf letters unit ∧
        (toString count ++ name).toList = Nat.toDigits 10 count ++ letters :=
    ⟨_, h, by simp⟩
  cases unit with
  | year | month | day => exact hplural ⟨by decide, by decide, rfl⟩ ⟨by decide, by decide, rfl⟩
  | week | hour | minute | second | millisecond | microsecond | nanosecond =>
      exact hsole ⟨by decide, by decide, rfl⟩

end Names

/-! ### Reading a row -/

section Reading

variable {letters : List Char} {unit : Unit} {count : Nat} {sum : Span}

/-- A number is read digit by digit, as long as it fits in a word. -/
theorem readFrom_digits (sum : Span) (shown : Nat) (first : Bool) (place : Nat) (h : count < wordLimit) :
    ∃ next, ∀ rest, readFrom sum (.blank shown first) place (Nat.toDigits 10 count ++ rest) =
      readFrom sum (.number count) next rest := by
  induction count using Nat.base_induction 10 (by decide) with
  | single d hd =>
      refine ⟨place + d.digitChar.utf8Size, fun rest => ?_⟩
      rw [Nat.toDigits_of_lt_base hd, List.singleton_append, readFrom, step,
        digitOf?_digitChar (by decide) hd]
  | digit n d hd hn ih =>
      obtain ⟨next, hnext⟩ := ih (by omega)
      refine ⟨next + d.digitChar.utf8Size, fun rest => ?_⟩
      have hpush : pushDigit? n d = some (10 * n + d) := by
        rw [pushDigit?, Nat.mul_comm, if_pos h]
      rw [← Nat.toDigits_append_toDigits (by decide) hn hd, List.append_assoc, hnext,
        Nat.toDigits_of_lt_base hd, List.singleton_append, readFrom, step,
        digitOf?_digitChar (by decide) hd]
      simp only [hpush]

/-- The name of a unit is read letter by letter, as long as there are letters. -/
theorem readFrom_letters (sum : Span) (count : Nat) (read : List Char) (place : Nat)
    (h : letters.all isPlainLetter = true) :
    ∃ next, ∀ rest, readFrom sum (.unit count none read) place (letters ++ rest) =
      readFrom sum (.unit count none (letters.reverse ++ read)) next rest := by
  induction letters generalizing read place with
  | nil => exact ⟨place, fun rest => rfl⟩
  | cons c cs ih =>
      rw [List.all_cons, Bool.and_eq_true] at h
      obtain ⟨hletter, hdigit, hblank⟩ := isPlainLetter_iff.mp h.1
      obtain ⟨next, hnext⟩ := ih (c :: read) (place + c.utf8Size) h.2
      refine ⟨next, fun rest => ?_⟩
      rw [List.cons_append, readFrom, step]
      simp only [hdigit, hblank, hletter, if_true, Bool.false_eq_true, if_false]
      rw [hnext, List.reverse_cons, List.append_assoc, List.singleton_append]

/-- A count of a unit is read up to the last letter of the name. -/
theorem readFrom_countText (sum : Span) (shown : Nat) (first : Bool) (place : Nat) (unit : Unit)
    (h : count < wordLimit) :
    ∃ letters next, Unit.ofName? (String.ofList letters.reverse) = some unit ∧
      ∀ rest, readFrom sum (.blank shown first) place ((unit.countText count).toList ++ rest) =
        readFrom sum (.unit count none letters) next rest := by
  obtain ⟨letters, hname, htext⟩ := exists_isNameOf unit count
  obtain ⟨c, cs, rfl⟩ := List.exists_cons_of_ne_nil hname.ne_nil
  have hletters := hname.isLetter
  rw [List.all_cons, Bool.and_eq_true] at hletters
  obtain ⟨hletter, hdigit, hblank⟩ := isPlainLetter_iff.mp hletters.1
  obtain ⟨middle, hmiddle⟩ := readFrom_digits sum shown first place h
  obtain ⟨next, hnext⟩ := readFrom_letters sum count [c] (middle + c.utf8Size) hletters.2
  refine ⟨cs.reverse ++ [c], next, by simpa using hname.ofName?, fun rest => ?_⟩
  rw [htext, List.append_assoc, hmiddle, List.cons_append, readFrom, step]
  simp only [hdigit, hblank, hletter, if_true, Bool.false_eq_true, if_false]
  exact hnext rest

/-- A number of nanoseconds that is in range. -/
theorem ofNanos?_eq_some {n : Nat} (h : n < 18446744073709551616 * 1000000000) : ofNanos? n = some ⟨n, h⟩ :=
  dif_pos h

theorem nanos_div_mul_perSecond (h : perSecond ≤ unit.nanos) : unit.nanos / perSecond * perSecond = unit.nanos := by
  revert h
  cases unit <;> decide

/-- A count of a unit is added if the sum is in range; that of a short unit has to be less than a second. -/
theorem plusCount?_eq_some (hsum : sum.nanos + count * unit.nanos < 18446744073709551616 * 1000000000)
    (hshort : unit.nanos < perSecond → count * unit.nanos < perSecond) :
    sum.plusCount? unit count = some ⟨sum.nanos + count * unit.nanos, hsum⟩ := by
  have hsubsecond : sum.subsecond < perSecond := Nat.mod_lt _ (by decide)
  rw [plusCount?]
  by_cases hlong : perSecond ≤ unit.nanos
  · -- a whole number of seconds
    have hseconds : count * (unit.nanos / perSecond) * perSecond = count * unit.nanos := by
      rw [Nat.mul_assoc, nanos_div_mul_perSecond hlong]
    have hword : count * (unit.nanos / perSecond) < wordLimit := by
      simp only [perSecond, wordLimit] at hseconds ⊢
      omega
    have hone : ¬ perSecond = 1 := by decide
    simp only [perSecond] at hsubsecond
    rw [if_pos hlong, if_pos hword, if_neg hone, plus?, if_pos (by simp only [wordLimit]; omega), hseconds,
      Nat.add_zero, ofNanos?_eq_some hsum]
  · have hless := hshort (Nat.lt_of_not_le hlong)
    simp only [perSecond] at hsubsecond hless
    rw [if_neg hlong, Nat.div_one, if_pos (by simp only [wordLimit]; omega), if_pos rfl, plus?,
      if_pos (by simp only [wordLimit]; omega), Nat.zero_mul, Nat.add_zero, ofNanos?_eq_some hsum]

theorem lt_wordLimit_of_lt (hrange : count * unit.nanos < 18446744073709551616 * 1000000000)
    (hshort : unit.nanos < perSecond → count * unit.nanos < perSecond) : count < wordLimit := by
  simp only [perSecond, wordLimit] at hshort ⊢
  have hunit := unit.nanos_pos
  rcases Nat.lt_or_ge unit.nanos 1000000000 with hlt | hge
  · have hle : count * 1 ≤ count * unit.nanos := Nat.mul_le_mul_left count hunit
    have hless := hshort hlt
    omega
  · have hle : count * 1000000000 ≤ count * unit.nanos := Nat.mul_le_mul_left count hge
    omega

/-- A count of a unit is added to the sum at the end of the text, and before a blank too. -/
theorem readFrom_item (hsum : sum.nanos + count * unit.nanos < 18446744073709551616 * 1000000000)
    (hshort : unit.nanos < perSecond → count * unit.nanos < perSecond) (shown : Nat) (first : Bool) (place : Nat) :
    readFrom sum (.blank shown first) place (unit.countText count).toList =
        .ok ⟨sum.nanos + count * unit.nanos, hsum⟩ ∧
      ∃ next, ∀ rest, readFrom sum (.blank shown first) place ((unit.countText count).toList ++ ' ' :: rest) =
        readFrom ⟨sum.nanos + count * unit.nanos, hsum⟩ (.blank next false) next rest := by
  obtain ⟨letters, next, hname, hread⟩ :=
    readFrom_countText sum shown first place unit (lt_wordLimit_of_lt (by omega) hshort)
  have hitem : sum.plusItem count none letters = .ok ⟨sum.nanos + count * unit.nanos, hsum⟩ := by
    simp only [plusItem, hname, plusCount?_eq_some hsum hshort]
  constructor
  · have hend := hread []
    rw [List.append_nil] at hend
    rw [hend]
    exact hitem
  · have hdigit : digitOf? 10 ' ' = none := by decide
    have hblank : Text.isBlank ' ' = true := by decide
    refine ⟨next + ' '.utf8Size, fun rest => ?_⟩
    rw [hread, readFrom, step]
    simp only [hdigit, hblank, if_true, hitem, Except.map]

/-- A row of counts is read as their sum. -/
theorem readFrom_row {parts : List (Unit × Nat)} (hne : parts ≠ [])
    (hsum : sum.nanos + total parts < 18446744073709551616 * 1000000000)
    (hshort : ∀ unit count, (unit, count) ∈ parts → unit.nanos < perSecond → count * unit.nanos < perSecond)
    (shown : Nat) (first : Bool) (place : Nat) :
    readFrom sum (.blank shown first) place
      ([' '].intercalate (parts.map fun (unit, count) => (unit.countText count).toList)) =
      .ok ⟨sum.nanos + total parts, hsum⟩ := by
  induction parts generalizing sum shown first place with
  | nil => exact absurd rfl hne
  | cons part rest ih =>
      obtain ⟨unit, count⟩ := part
      have hparts : total ((unit, count) :: rest) = count * unit.nanos + total rest := rfl
      have hcount : sum.nanos + count * unit.nanos < 18446744073709551616 * 1000000000 := by omega
      obtain ⟨hend, next, hnext⟩ :=
        readFrom_item hcount (hshort unit count List.mem_cons_self) shown first place
      cases rest with
      | nil =>
          rw [List.map_singleton, List.intercalate_singleton]
          exact hend
      | cons other rest =>
          have hrest := @ih ⟨sum.nanos + count * unit.nanos, hcount⟩ (by simp) (by dsimp only; omega)
            (fun unit count hmem => hshort unit count (List.mem_cons_of_mem _ hmem)) next false next
          rw [List.map_cons] at hrest
          rw [List.map_cons, List.map_cons, List.intercalate_cons_cons, List.append_assoc, List.singleton_append,
            hnext, hrest]
          simp only [Except.ok.injEq, mk.injEq, hparts]
          omega

end Reading

/-! ### Lengths -/

/-- What is written for a length is read as this length. -/
theorem ofText_toText (s : Span) : ofText s.toText = .ok s := by
  by_cases hzero : s.isZero = true
  · have hnanos : s.nanos = 0 := by simpa [isZero] using hzero
    rw [toText, if_pos hzero]
    obtain ⟨n, hn⟩ := s
    subst hnanos
    rfl
  · set parts := (counts Unit.written s.nanos).filter fun (_, count) => count != 0 with hparts
    have htotal : total parts = s.nanos := by
      rw [hparts, total_filter, total_counts rfl]
    have hne : parts ≠ [] := by
      intro hnil
      rw [hnil, total] at htotal
      exact hzero (by simp [isZero, ← htotal])
    have hshort : ∀ unit count, (unit, count) ∈ parts → unit.nanos < perSecond →
        count * unit.nanos < perSecond := by
      intro unit count hmem hlt
      have hsecond : Unit.second ∈ Unit.written := by decide
      exact lt_of_mem_counts (by decide) (List.mem_of_mem_filter hmem) hsecond hlt
    have hsum : zero.nanos + total parts < 18446744073709551616 * 1000000000 := by
      simpa [zero, htotal] using s.inRange
    have hspace : " ".toList = [' '] := rfl
    rw [toText, if_neg hzero, ← hparts, ofText, String.toList_intercalate, hspace, List.map_map]
    have hread : (⟨zero.nanos + total parts, hsum⟩ : Span) = s := by
      obtain ⟨n, hn⟩ := s
      simp [zero, htotal]
    exact (readFrom_row hne hsum hshort 0 true 0).trans (congrArg Except.ok hread)

end AutoProxy.Span
