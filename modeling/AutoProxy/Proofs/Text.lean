import Mathlib.Data.List.DropRight
import Mathlib.Data.List.TakeWhile
import AutoProxy.Text.Basic

/-!
Laws of trimming and cutting. Trimming leaves exactly those texts as they are that have no blank
at either end (`trim_eq_self_iff`), and its results are such texts (`isTrimmed_trim`). Each way to
cut a text is determined by what it gives: `cut` and `cutLast` by the text before and after a
character (`cut_eq_some_iff`, `cutLast_eq_some_iff`), `split` by what it does at a separator
(`split_append_cons`) and where there is none (`split_of_not_mem`).
-/

namespace AutoProxy.Text

/-! ### Trimming -/

/-- Neither end of the text is blank. -/
structure IsTrimmed (cs : List Char) : Prop where
  head : ∀ c ∈ cs.head?, isBlank c = false
  last : ∀ c ∈ cs.getLast?, isBlank c = false

section Trimming

variable {cs : List Char} {c : Char}

theorem trimEnd_eq_rdropWhile (cs : List Char) : trimEnd cs = cs.rdropWhile isBlank := rfl

theorem trimStart_eq_self_iff : trimStart cs = cs ↔ ∀ c ∈ cs.head?, isBlank c = false := by
  rw [trimStart, List.dropWhile_eq_self_iff]
  cases cs with
  | nil => simp
  | cons x xs => simp

theorem trimEnd_eq_self_iff : trimEnd cs = cs ↔ ∀ c ∈ cs.getLast?, isBlank c = false := by
  rw [trimEnd_eq_rdropWhile, List.rdropWhile_eq_self_iff]
  constructor
  · intro h c hc
    obtain ⟨front, rfl⟩ := List.getLast?_eq_some_iff.mp hc
    simpa using h (by simp)
  · intro h hne
    simpa using h (cs.getLast hne) (List.getLast?_eq_some_getLast hne)

/-- Trimming takes characters from the ends only. -/
theorem trim_within (cs : List Char) : trim cs <:+: cs :=
  (List.rdropWhile_prefix isBlank (trimStart cs)).isInfix.trans (List.dropWhile_suffix isBlank).isInfix

theorem mem_of_mem_trim (h : c ∈ trim cs) : c ∈ cs := (trim_within cs).subset h

/-- What is left after trimming is trimmed. -/
theorem isTrimmed_trim (cs : List Char) : IsTrimmed (trim cs) where
  head := by
    intro c hc
    -- What is left begins as the text does without its leading blanks.
    obtain ⟨rest, hrest⟩ := List.rdropWhile_prefix isBlank (trimStart cs)
    have hhead : c ∈ (trimStart cs).head? := by
      rw [← hrest, List.head?_append]
      simp [show ((trimStart cs).rdropWhile isBlank).head? = some c from hc]
    exact trimStart_eq_self_iff.mp (List.dropWhile_idempotent isBlank cs) c hhead
  last := trimEnd_eq_self_iff.mp (List.rdropWhile_idempotent isBlank (trimStart cs))

/-- Exactly the trimmed texts are left as they are. -/
theorem trim_eq_self_iff : trim cs = cs ↔ IsTrimmed cs := by
  constructor
  · intro h
    rw [← h]
    exact isTrimmed_trim cs
  · intro h
    rw [trim, trimStart_eq_self_iff.mpr h.head, trimEnd_eq_self_iff.mpr h.last]

instance (cs : List Char) : Decidable (IsTrimmed cs) :=
  decidable_of_iff (trim cs = cs) trim_eq_self_iff

/-- Nothing is left of a text exactly if all of it is blank. -/
theorem trim_eq_nil_iff : trim cs = [] ↔ ∀ c ∈ cs, isBlank c = true := by
  constructor
  · intro h
    have hstart : ∀ c ∈ trimStart cs, isBlank c = true := List.rdropWhile_eq_nil_iff.mp h
    intro c hc
    rw [← List.takeWhile_append_dropWhile (p := isBlank) (l := cs), List.mem_append] at hc
    rcases hc with hc | hc
    · exact List.mem_takeWhile_imp hc
    · exact hstart c hc
  · intro h
    have hnil : trimStart cs = [] := List.dropWhile_eq_nil_iff.mpr h
    rw [trim, hnil]
    rfl

theorem isBlankString_iff {s : String} : isBlankString s = true ↔ trimmed s = "" := by
  rw [isBlankString, List.all_eq_true, ← trim_eq_nil_iff, trimmed, ← String.toList_inj]
  simp

theorem trimStart_cons_of_not_blank (h : isBlank c = false) : trimStart (c :: cs) = c :: cs := by
  simp [trimStart, h]

theorem trim_cons_of_blank (h : isBlank c = true) : trim (c :: cs) = trim cs := by
  simp [trim, trimStart, h]

theorem trimStart_append_cons (front back : List Char) (h : isBlank c = false) :
    trimStart (front ++ c :: back) = trimStart front ++ c :: back := by
  induction front with
  | nil => simp [trimStart, h]
  | cons x xs ih =>
      by_cases hx : isBlank x = true
      · simpa [trimStart, hx] using ih
      · simp [trimStart, hx]

theorem trimEnd_append_cons (front back : List Char) (h : isBlank c = false) :
    trimEnd (front ++ c :: back) = front ++ c :: trimEnd back := by
  have hstart := trimStart_append_cons back.reverse front.reverse h
  simp only [trimStart] at hstart
  simp [trimEnd, hstart]

/-- Around a character that is not blank, each side of a text is trimmed by itself. -/
theorem trim_append_cons (front back : List Char) (h : isBlank c = false) :
    trim (front ++ c :: back) = trimStart front ++ c :: trimEnd back := by
  rw [trim, trimStart_append_cons front back h, trimEnd_append_cons _ back h]

/-- Blanks before a text are trimmed away. -/
theorem trim_blank_append {blanks : List Char} (h : ∀ c ∈ blanks, isBlank c = true) (cs : List Char) :
    trim (blanks ++ cs) = trim cs := by
  rw [trim, trim, trimStart, trimStart, List.dropWhile_append_of_pos h]

theorem trimEnd_append_blank {blanks : List Char} (h : ∀ c ∈ blanks, isBlank c = true) (cs : List Char) :
    trimEnd (cs ++ blanks) = trimEnd cs := by
  have hreverse : ∀ c ∈ blanks.reverse, isBlank c = true := fun c hc => h c (List.mem_reverse.mp hc)
  rw [trimEnd, trimEnd, List.reverse_append, List.dropWhile_append_of_pos hreverse]

/-- Blanks behind a text are trimmed away. -/
theorem trim_append_blank {blanks : List Char} (h : ∀ c ∈ blanks, isBlank c = true) (cs : List Char) :
    trim (cs ++ blanks) = trim cs := by
  rw [trim, trim, trimStart, trimStart, List.dropWhile_append]
  split
  · next hempty =>
    rw [List.dropWhile_eq_nil_iff.mpr h, List.isEmpty_iff.mp hempty]
  · exact trimEnd_append_blank h _

theorem trim_trimEnd (cs : List Char) : trim (trimEnd cs) = trim cs := by
  have hend : trimEnd cs ++ cs.rtakeWhile isBlank = cs := List.rdropWhile_append_rtakeWhile
  calc trim (trimEnd cs)
      = trim (trimEnd cs ++ cs.rtakeWhile isBlank) :=
        (trim_append_blank (fun c hc => List.mem_rtakeWhile_imp hc) _).symm
    _ = trim cs := by rw [hend]

end Trimming

/-! ### Cutting -/

section Cutting

variable {p : Char → Bool} {cs before after : List Char}

/-- A character that does not occur is no place to cut at. -/
theorem forall_ne_of_not_mem {d : Char} (h : d ∉ cs) : ∀ c ∈ cs, decide (c = d) = false := by
  intro c hc
  rw [decide_eq_false_iff_not]
  rintro rfl
  exact h hc

theorem cut_eq_none_iff : cut p cs = none ↔ ∀ c ∈ cs, p c = false := by
  induction cs with
  | nil => simp [cut]
  | cons x xs ih => by_cases h : p x = true <;> simp_all [cut]

/-- A text is cut at the first character with the property. -/
theorem cut_append_cons {d : Char} (after : List Char) (hbefore : ∀ c ∈ before, p c = false)
    (hd : p d = true) : cut p (before ++ d :: after) = some (before, after) := by
  induction before with
  | nil => simp [cut, hd]
  | cons x xs ih =>
      have hx : p x = false := hbefore x (by simp)
      have hxs := ih fun c hc => hbefore c (by simp [hc])
      simp [cut, hx, hxs]

theorem cut_eq_some_iff :
    cut p cs = some (before, after) ↔
      ∃ d, p d = true ∧ cs = before ++ d :: after ∧ ∀ c ∈ before, p c = false := by
  constructor
  · intro h
    induction cs generalizing before with
    | nil => simp [cut] at h
    | cons x xs ih =>
        by_cases hx : p x = true
        · simp only [cut, hx, if_true, Option.some.injEq, Prod.mk.injEq] at h
          obtain ⟨rfl, rfl⟩ := h
          exact ⟨x, hx, rfl, by simp⟩
        · simp only [cut, hx] at h
          obtain ⟨⟨front, rest⟩, hcut, heq⟩ := Option.map_eq_some_iff.mp h
          cases heq
          obtain ⟨d, hd, rfl, hfront⟩ := ih hcut
          exact ⟨d, hd, rfl, by simp_all⟩
  · rintro ⟨d, hd, rfl, hbefore⟩
    exact cut_append_cons after hbefore hd

theorem cutLast_eq_some_iff :
    cutLast p cs = some (before, after) ↔
      ∃ d, p d = true ∧ cs = before ++ d :: after ∧ ∀ c ∈ after, p c = false := by
  have hrev : cutLast p cs = some (before, after) ↔
      cut p cs.reverse = some (after.reverse, before.reverse) := by
    constructor
    · intro h
      obtain ⟨⟨a, b⟩, hcut, heq⟩ := Option.map_eq_some_iff.mp h
      cases heq
      simpa using hcut
    · intro h
      simp [cutLast, h]
  rw [hrev, cut_eq_some_iff]
  refine exists_congr fun d => and_congr_right fun _ => ?_
  rw [List.reverse_eq_iff]
  simp

theorem cutLast_eq_none_iff : cutLast p cs = none ↔ ∀ c ∈ cs, p c = false := by
  simp only [cutLast, Option.map_eq_none_iff, cut_eq_none_iff, List.mem_reverse]

/-- A text is cut for the last time at the last character with the property. -/
theorem cutLast_append_cons {d : Char} (before : List Char) (hd : p d = true)
    (hafter : ∀ c ∈ after, p c = false) : cutLast p (before ++ d :: after) = some (before, after) :=
  cutLast_eq_some_iff.mpr ⟨d, hd, rfl, hafter⟩

end Cutting

/-! ### Splitting -/

section Splitting

variable {separator : Char} {cs part : List Char}

theorem split_ne_nil (separator : Char) (cs : List Char) : split separator cs ≠ [] := by
  cases cs with
  | nil => simp [split]
  | cons c cs => grind [split]

/-- Splitting puts its parts before and after a separator. -/
theorem split_append_cons (front back : List Char) :
    split separator (front ++ separator :: back) = split separator front ++ split separator back := by
  induction front with
  | nil => simp [split]
  | cons x xs ih =>
      by_cases hx : x = separator
      · simp [split, hx, ih]
      · obtain ⟨first, rest, hsplit⟩ := List.exists_cons_of_ne_nil (split_ne_nil separator xs)
        simp [split, hx, ih, hsplit]

theorem split_of_not_mem (h : separator ∉ cs) : split separator cs = [cs] := by
  induction cs with
  | nil => rfl
  | cons x xs ih =>
      obtain ⟨hx, hxs⟩ := List.ne_and_not_mem_of_not_mem_cons h
      simp [split, Ne.symm hx, ih hxs]

/-- There is one part more than there are separators. -/
theorem length_split (separator : Char) (cs : List Char) :
    (split separator cs).length = cs.count separator + 1 := by
  induction cs with
  | nil => rfl
  | cons c cs ih =>
      by_cases hc : c = separator
      · simp [split, hc, ih]
      · obtain ⟨first, rest, hsplit⟩ := List.exists_cons_of_ne_nil (split_ne_nil separator cs)
        rw [List.count_cons_of_ne hc, ← ih, split, if_neg hc, hsplit]
        rfl

/-- It is the splitting of the library. -/
theorem split_eq_splitOn (separator : Char) (cs : List Char) : split separator cs = cs.splitOn separator := by
  induction cs with
  | nil => rfl
  | cons c cs ih =>
      rw [split, List.splitOn_cons_eq_if_modifyHead, ← ih]
      by_cases h : c = separator
      · simp [h]
      · obtain ⟨part, parts, hparts⟩ := List.exists_cons_of_ne_nil (split_ne_nil separator cs)
        simp [h, hparts]

/-- Every character but the separators stands in a part. -/
theorem exists_mem_split {c : Char} (h : c ∈ cs) (hc : c ≠ separator) :
    ∃ part ∈ split separator cs, c ∈ part := by
  obtain ⟨front, back, rfl⟩ := List.append_of_mem h
  clear h
  induction front with
  | nil =>
      obtain ⟨first, rest, hsplit⟩ := List.exists_cons_of_ne_nil (split_ne_nil separator back)
      exact ⟨c :: first, by simp [split, hc, hsplit], by simp⟩
  | cons x xs ih =>
      obtain ⟨part, hpart, hmem⟩ := ih
      obtain ⟨first, rest, hsplit⟩ :=
        List.exists_cons_of_ne_nil (split_ne_nil separator (xs ++ c :: back))
      by_cases hx : x = separator
      · exact ⟨part, by simp [split, hx, hpart], hmem⟩
      · rw [hsplit, List.mem_cons] at hpart
        rcases hpart with rfl | hpart
        · exact ⟨x :: part, by simp [split, hx, hsplit], List.mem_cons_of_mem x hmem⟩
        · exact ⟨part, by simp [split, hx, hsplit, hpart], hmem⟩

theorem not_mem_of_mem_split (h : part ∈ split separator cs) : separator ∉ part := by
  induction cs generalizing part with
  | nil => simp_all [split]
  | cons x xs ih =>
      by_cases hx : x = separator
      · simp only [split, hx, if_true, List.mem_cons] at h
        rcases h with rfl | h
        · simp
        · exact ih h
      · obtain ⟨first, rest, hsplit⟩ := List.exists_cons_of_ne_nil (split_ne_nil separator xs)
        simp only [split, hx, if_false, hsplit, List.mem_cons] at h
        rcases h with rfl | h
        · have hfirst : separator ∉ first := ih (by simp [hsplit])
          simp [Ne.symm hx, hfirst]
        · exact ih (by simp [hsplit, h])

end Splitting

/-! ### Words -/

theorem sameWord_iff {a b : String} : sameWord a b = true ↔ toLower a.toList = toLower b.toList :=
  beq_iff_eq

end AutoProxy.Text
