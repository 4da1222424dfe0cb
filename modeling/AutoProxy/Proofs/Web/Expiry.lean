import AutoProxy.Proofs.Calendar.Count
import AutoProxy.Proofs.Calendar.Limits
import AutoProxy.Web.Expiry

/-!
Responses that expire at once. Of the `Cache-Control` lines of a response only the first one is read, and of
its directives the first one that decides (`Decides`, `bind_deciding?_eq_some_iff`). Hence `no-cache` and
`no-store` make a response expire at once where one of them comes first in this sense
(`announced_eq_now_iff`), but neither behind a `max-age` nor on a later line (`announced_ne_now_behind`).

Where no directive decides, it is the first `Expires` field that counts. If all of its bytes are visible it
can be read, and without a date it makes the response expire at once; a single byte that is not visible makes
it count as no field at all, so that the response never expires (`announced_of_undated`).
-/

namespace AutoProxy.Web.Expiry

/-! ## Cache-Control -/

open Calendar

/-- The value of the first field of a name, if that can be read. -/
def FirstValue (name : String) (headers : List Header) (value : List Char) : Prop :=
  ∃ front field back, headers = front ++ field :: back ∧ Text.sameWord field.name name = true ∧
    (∀ other ∈ front, Text.sameWord other.name name = false) ∧ field.text? = some value

/-- The first `Cache-Control` line has this directive, and none before it decides. -/
def Decides (headers : List Header) (directive : Directive) : Prop :=
  ∃ value, FirstValue "Cache-Control" headers value ∧
    ∃ before part after, Text.split ',' value = before ++ part :: after ∧
      Directive.ofChars? part = some directive ∧ ∀ earlier ∈ before, Directive.ofChars? earlier = none

/-- `no-cache` or `no-store` is among the directives of one of the `Cache-Control` lines, in any case of its
letters and with any blanks around it. -/
def ForbidsKeeping (headers : List Header) : Prop :=
  ∃ field ∈ headers, Text.sameWord field.name "Cache-Control" = true ∧
    ∃ value, field.text? = some value ∧ ∃ part ∈ Text.split ',' value,
      Text.toLower (Text.trim part) = "no-cache".toList ∨ Text.toLower (Text.trim part) = "no-store".toList

/-- The first `Expires` field names no date, or the present. -/
def ExpiresNow (headers : List Header) (now : Instant) : Prop :=
  ∃ value, FirstValue "Expires" headers value ∧
    ∀ at_, MailDate.read? (Text.trim value) = some at_ → at_.toUtc = now

section

variable {headers : List Header} {name : String} {value : List Char} {directive : Directive} {now : Instant}

/-! ### Fields -/

theorem find?_bind_text?_eq_some_iff :
    (Header.find? name headers).bind Header.text? = some value ↔ FirstValue name headers value := by
  simp only [Option.bind_eq_some_iff, Header.find?, List.find?_eq_some_iff_append, FirstValue]
  constructor
  · rintro ⟨field, ⟨hname, front, back, rfl, hfront⟩, htext⟩
    exact ⟨front, field, back, rfl, hname, by simpa using hfront, htext⟩
  · rintro ⟨front, field, back, rfl, hname, hfront, htext⟩
    exact ⟨field, ⟨hname, front, back, rfl, by simpa using hfront⟩, htext⟩

/-! ### Directives -/

theorem Directive.ofChars?_eq_discard_iff {part : List Char} :
    ofChars? part = some discard ↔
      Text.toLower (Text.trim part) = "no-cache".toList ∨
        Text.toLower (Text.trim part) = "no-store".toList := by
  dsimp only [ofChars?]
  constructor
  · intro hdiscard
    by_contra hother
    rw [if_neg hother] at hdiscard
    obtain ⟨age, -, hkeep⟩ := Option.bind_eq_some_iff.mp hdiscard
    obtain ⟨seconds, -, hseconds⟩ := Option.map_eq_some_iff.mp hkeep
    cases hseconds
  · intro hword
    exact if_pos hword

theorem bind_deciding?_eq_some_iff :
    ((Header.find? "Cache-Control" headers).bind Header.text?).bind deciding? = some directive ↔
      Decides headers directive := by
  simp only [Option.bind_eq_some_iff (x := (Header.find? "Cache-Control" headers).bind Header.text?),
    find?_bind_text?_eq_some_iff, Decides, deciding?, List.findSome?_eq_some_iff]

theorem bind_deciding?_eq_none_iff :
    ((Header.find? "Cache-Control" headers).bind Header.text?).bind deciding? = none ↔
      ∀ directive, ¬ Decides headers directive := by
  simp only [Option.eq_none_iff_forall_ne_some, ne_eq, bind_deciding?_eq_some_iff]

/-- What forbids to keep a response is a directive of it. -/
theorem Decides.forbidsKeeping (h : Decides headers .discard) : ForbidsKeeping headers := by
  obtain ⟨value, ⟨front, field, back, rfl, hname, -, htext⟩, before, part, after, hsplit, hpart, -⟩ := h
  refine ⟨field, by simp, hname, value, htext, part, ?_, Directive.ofChars?_eq_discard_iff.mp hpart⟩
  rw [hsplit]
  simp

/-! ### Instants -/

/-- To keep a response for no time is to let it expire at once. -/
theorem Directive.instant?_eq_now_iff (h : now.IsReading) :
    directive.instant? now = some now ↔
      directive = .discard ∨ ∃ age ≤ 0, directive = .keep age := by
  cases directive with
  | discard => simp [instant?]
  | keep age =>
      simp only [reduceCtorEq, false_or, keep.injEq, exists_eq_right']
      constructor
      · intro hnow
        obtain ⟨d, hd, hadd⟩ := Option.bind_eq_some_iff.mp hnow
        obtain ⟨-, rfl⟩ := Delta.ofSeconds?_eq_some_iff.mp hd
        have hcount := Instant.count_add? (Int.le_max_right ..) (Int.le_refl _) hadd
        simp only [Delta.count, Moment.nanosPerSecond] at hcount
        omega
      · intro hage
        have hmax : max age 0 = 0 := Int.max_eq_right hage
        rw [instant?, hmax]
        exact Instant.add?_zero h

theorem dateOrNow_eq_now_iff {now : Instant} :
    dateOrNow now value = now ↔ ∀ at_, MailDate.read? (Text.trim value) = some at_ → at_.toUtc = now := by
  rw [dateOrNow]
  cases MailDate.read? (Text.trim value) with
  | none => simp
  | some at_ => simp

/-! ### Responses -/

/-- No two directives decide. -/
theorem Decides.unique {other : Directive} (h : Decides headers directive) (h' : Decides headers other) :
    directive = other :=
  Option.some.inj ((bind_deciding?_eq_some_iff.mpr h).symm.trans (bind_deciding?_eq_some_iff.mpr h'))

/-- Where a directive decides, the response expires when this directive says. -/
theorem Decides.announced_eq_on_iff (h : Decides headers directive) {at_ : Instant} :
    announced headers now = .on at_ ↔ directive.instant? now.toUtc = some at_ := by
  dsimp only [announced]
  rw [bind_deciding?_eq_some_iff.mpr h]
  dsimp only
  cases directive.instant? now.toUtc with
  | none => simp
  | some expires => simp

/-- Where none decides, it is for the `Expires` field to say so. -/
theorem announced_eq_on_now_iff_of_none (h : ∀ directive, ¬ Decides headers directive) :
    announced headers now = .on now.toUtc ↔ ExpiresNow headers now.toUtc := by
  dsimp only [announced]
  rw [bind_deciding?_eq_none_iff.mpr h]
  simp only [ExpiresNow, ← find?_bind_text?_eq_some_iff, ← dateOrNow_eq_now_iff]
  cases (Header.find? "Expires" headers).bind Header.text? with
  | none => simp
  | some value => simp

/-- A response expires at once exactly if the first directive that decides on its first `Cache-Control` line
is `no-cache`, `no-store` or a `max-age` of no time, or if none decides there and its `Expires` field names
no date or the present. -/
theorem announced_eq_now_iff (hnow : now.IsReading) :
    (Decides headers .discard → ForbidsKeeping headers) ∧
      (announced headers now = .on now.toUtc ↔
        Decides headers .discard ∨ (∃ age ≤ 0, Decides headers (.keep age)) ∨
          ((∀ directive, ¬ Decides headers directive) ∧ ExpiresNow headers now.toUtc)) := by
  refine ⟨Decides.forbidsKeeping, ?_⟩
  by_cases hdecides : ∃ directive, Decides headers directive
  · obtain ⟨directive, hdirective⟩ := hdecides
    rw [hdirective.announced_eq_on_iff, Directive.instant?_eq_now_iff hnow.toUtc]
    constructor
    · rintro (rfl | ⟨age, hage, rfl⟩)
      · exact .inl hdirective
      · exact .inr (.inl ⟨age, hage, hdirective⟩)
    · rintro (hdiscard | ⟨age, hage, hkeep⟩ | ⟨hnone, -⟩)
      · exact .inl (hdirective.unique hdiscard)
      · exact .inr ⟨age, hage, hdirective.unique hkeep⟩
      · exact absurd hdirective (hnone directive)
  · have hnone : ∀ directive, ¬ Decides headers directive := not_exists.mp hdecides
    rw [announced_eq_on_now_iff_of_none hnone]
    constructor
    · intro hexpires
      exact .inr (.inr ⟨hnone, hexpires⟩)
    · rintro (hdiscard | ⟨age, -, hkeep⟩ | ⟨-, hexpires⟩)
      · exact absurd hdiscard (hnone _)
      · exact absurd hkeep (hnone _)
      · exact hexpires

/-- A field of a response, its value given as text. -/
def line (name value : String) : Header := ⟨name, value.toList.map fun c => UInt8.ofNat c.toNat⟩

def noon : Instant := ⟨⟨⟨2026, 10, 19⟩, 43200, 0⟩, 0⟩

theorem announced_eq_now_iff_beforeMaxAge :
    noon.IsReading ∧
      ForbidsKeeping [line "Cache-Control" "No-Store , max-age=60"] ∧
      announced [line "Cache-Control" "No-Store , max-age=60"] noon = .on noon := by
  have hdecides : Decides [line "Cache-Control" "No-Store , max-age=60"] .discard := by
    rw [← bind_deciding?_eq_some_iff]
    decide
  have hnow : noon.IsReading := ⟨by decide, by decide⟩
  constructor
  · exact hnow
  · constructor
    · exact (announced_eq_now_iff hnow).1 hdecides
    · exact (announced_eq_now_iff hnow).2.mpr (.inl hdecides)

/-- Behind a `max-age`, or on a later line, what forbids to keep a response counts for nothing. -/
theorem announced_ne_now_behind :
    (ForbidsKeeping [line "Cache-Control" "max-age=60, no-cache"] ∧
      announced [line "Cache-Control" "max-age=60, no-cache"] noon ≠ .on noon) ∧
    (ForbidsKeeping [line "Cache-Control" "public", line "Cache-Control" "no-store"] ∧
      announced [line "Cache-Control" "public", line "Cache-Control" "no-store"] noon ≠ .on noon) := by
  refine ⟨⟨?_, by decide⟩, ⟨?_, by decide⟩⟩
  · exact ⟨_, List.mem_singleton_self _, by decide, _, rfl, " no-cache".toList, by decide, by decide⟩
  · exact ⟨line "Cache-Control" "no-store", by simp, by decide, _, rfl, "no-store".toList, by decide,
      by decide⟩

end

end AutoProxy.Web.Expiry

/-! ## Expires -/

namespace AutoProxy.Web

open Calendar

/-! ### Fields -/

namespace Header

/-- The field names an instant in the notation of mail dates, which is one of visible ASCII. -/
def Dates (field : Header) (at_ : Instant) : Prop :=
  ∃ value, field.text? = some value ∧ MailDate.read? (Text.trim value) = some at_

/-- The field is the first one of a name. -/
def IsFirst (name : String) (headers : List Header) (field : Header) : Prop :=
  ∃ front back, headers = front ++ field :: back ∧ Text.sameWord field.name name = true ∧
    ∀ other ∈ front, Text.sameWord other.name name = false

variable {name : String} {headers : List Header} {field : Header}

theorem find?_eq_some_iff_isFirst : find? name headers = some field ↔ field.IsFirst name headers := by
  simp only [find?, List.find?_eq_some_iff_append, IsFirst]
  constructor
  · rintro ⟨hname, front, back, rfl, hfront⟩
    exact ⟨front, back, rfl, hname, by simpa using hfront⟩
  · rintro ⟨front, back, rfl, hname, hfront⟩
    exact ⟨hname, front, back, rfl, by simpa using hfront⟩

/-- If there is a field of a name, there is a first one. -/
theorem exists_find? (hmem : field ∈ headers) (hname : Text.sameWord field.name name = true) :
    ∃ first, find? name headers = some first :=
  Option.isSome_iff_exists.mp (List.find?_isSome.mpr ⟨field, hmem, hname⟩)

theorem text?_eq_none_iff : field.text? = none ↔ ∃ b ∈ field.value, isVisible b = false := by
  simp [text?]

theorem exists_text?_iff : (∃ value, field.text? = some value) ↔ ∀ b ∈ field.value, isVisible b = true := by
  simp [text?]

end Header

namespace Expiry

variable {headers : List Header} {now : Instant}

theorem firstValue_iff {name : String} {value : List Char} :
    FirstValue name headers value ↔
      ∃ field : Header, field.IsFirst name headers ∧ field.text? = some value := by
  simp only [← find?_bind_text?_eq_some_iff, Option.bind_eq_some_iff, Header.find?_eq_some_iff_isFirst]

/-- A field makes a response expire at once if it can be read and names nothing but the present. -/
theorem expiresNow_iff : ExpiresNow headers now ↔
    ∃ field : Header, field.IsFirst "Expires" headers ∧ (∀ b ∈ field.value, Header.isVisible b = true) ∧
      ∀ at_, field.Dates at_ → at_.toUtc = now := by
  simp only [ExpiresNow, firstValue_iff, ← Header.exists_text?_iff]
  constructor
  · rintro ⟨value, ⟨field, hfirst, htext⟩, hnow⟩
    refine ⟨field, hfirst, ⟨value, htext⟩, ?_⟩
    rintro at_ ⟨value', htext', hread⟩
    obtain rfl : value = value' := Option.some.inj (htext.symm.trans htext')
    exact hnow at_ hread
  · rintro ⟨field, hfirst, ⟨value, htext⟩, hnow⟩
    exact ⟨value, ⟨field, hfirst, htext⟩, fun at_ hread => hnow at_ ⟨value, htext, hread⟩⟩

/-- Where no directive decides, a response never expires exactly if no `Expires` field can be read. -/
theorem announced_eq_never_iff_of_none (h : ∀ directive, ¬ Decides headers directive) :
    announced headers now = .never ↔ (Header.find? "Expires" headers).bind Header.text? = none := by
  dsimp only [announced]
  rw [bind_deciding?_eq_none_iff.mpr h]
  cases (Header.find? "Expires" headers).bind Header.text? with
  | none => simp
  | some value => simp

/-- A response without a directive that decides, but with an `Expires` field that names no date, expires at
once exactly if the first such field can be read and does not name another instant; if that field holds a
byte that is not visible, the response never expires. -/
theorem announced_of_undated (hnone : ∀ directive, ¬ Decides headers directive)
    (hundated : ∃ field ∈ headers, Text.sameWord field.name "Expires" = true ∧
      ∀ at_, ¬ Header.Dates field at_) :
    (announced headers now = .on now.toUtc ↔
      ∃ field : Header, field.IsFirst "Expires" headers ∧ (∀ b ∈ field.value, Header.isVisible b = true) ∧
        ∀ at_, field.Dates at_ → at_.toUtc = now.toUtc) ∧
    (announced headers now = .never ↔
      ∃ field : Header, field.IsFirst "Expires" headers ∧ ∃ b ∈ field.value, Header.isVisible b = false) := by
  obtain ⟨field, hmem, hname, -⟩ := hundated
  obtain ⟨first, hfirst⟩ := Header.exists_find? hmem hname
  constructor
  · rw [announced_eq_on_now_iff_of_none hnone, expiresNow_iff]
  · rw [announced_eq_never_iff_of_none hnone]
    simp only [← Header.find?_eq_some_iff_isFirst, hfirst, Option.bind_some, Option.some.injEq,
      exists_eq_left', Header.text?_eq_none_iff]

/-- A field whose value is one letter with an accent, in the encoding of the web. -/
def accented : Header := ⟨"Expires", [0xC3, 0xA9]⟩

theorem announced_of_undated_zero :
    (∀ directive, ¬ Decides [line "Cache-Control" "public", line "expires" "0"] directive) ∧
      (∀ at_, ¬ Header.Dates (line "expires" "0") at_) ∧
      announced [line "Cache-Control" "public", line "expires" "0"] noon = .on noon := by
  have hnone : ∀ directive, ¬ Decides [line "Cache-Control" "public", line "expires" "0"] directive := by
    rw [← bind_deciding?_eq_none_iff]
    decide
  have hundated : ∀ at_, ¬ Header.Dates (line "expires" "0") at_ := by
    rintro at_ ⟨value, htext, hread⟩
    obtain rfl : "0".toList = value := Option.some.inj htext
    have hnot : MailDate.read? (Text.trim "0".toList) = none := by decide
    rw [hnot] at hread
    cases hread
  have hvisible : ∀ b ∈ (line "expires" "0").value, Header.isVisible b = true :=
    List.all_eq_true.mp (by decide)
  refine ⟨hnone, hundated, ?_⟩
  refine (announced_of_undated hnone ⟨_, by simp, by decide, hundated⟩).1.mpr ?_
  exact ⟨line "expires" "0", ⟨[line "Cache-Control" "public"], [], rfl, by decide, by decide⟩, hvisible,
    fun at_ hdates => absurd hdates (hundated at_)⟩

/-- A value of bytes that are legal but not visible names no date, and yet the response never expires. -/
theorem announced_accented :
    accented.isValid = true ∧ (∀ directive, ¬ Decides [accented] directive) ∧
      (∀ at_, ¬ accented.Dates at_) ∧ announced [accented] noon = .never ∧
      announced [accented] noon ≠ .on noon := by
  refine ⟨by decide, ?_, ?_, by decide, by decide⟩
  · rw [← bind_deciding?_eq_none_iff]
    decide
  · rintro at_ ⟨value, htext, -⟩
    cases htext

end Expiry

end AutoProxy.Web
