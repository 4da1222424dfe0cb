import AutoProxy.Proofs.Double
import AutoProxy.Proofs.Predicate.DateRange

/-!
How much of its arguments a date range reads: of the days, of the months and of the years the first one
and, if there are several, the last one, and whether universal time is asked for at all. Lists that agree
on this (`Agree`) leave the same in the slots (`ofArguments_eq_iff_agree`), and a date range does not tell them
apart (`dateRange_eq_of_agree`). Hence neither the order of arguments of different kinds matters
(`agree_swap`) nor what says nothing (`agree_without`), which is what is neither a finite number nor the
name of a month nor the marker of universal time (`Argument.saysNothing_iff`).
-/

namespace AutoProxy.Predicate

open Calendar

/-! ### What slots keep -/

section Slots

variable {α β : Type}

/-- The first of several values and, if there are several, the last one. -/
def outermost (values : List α) : Option α × Option α := (values.head?, values.tail.getLast?)

theorem outermost_map_eq_iff {f : α → β} (hf : Function.Injective f) (values values' : List α) :
    outermost (values.map f) = outermost (values'.map f) ↔ outermost values = outermost values' := by
  have hoption := Option.map_injective hf
  simp only [outermost, ← List.map_tail, List.getLast?_map, List.head?_map, Prod.mk.injEq,
    hoption.eq_iff]

/-- Once there is a first value, each further one takes the place of the last. -/
theorem foldl_add_of_first (first : Int) (last : Option Int) (values : List Int) :
    values.foldl Slots.add ⟨some first, last⟩ = ⟨some first, values.getLast?.or last⟩ := by
  induction values generalizing last with
  | nil => rfl
  | cons value rest ih =>
      have hadd : Slots.add ⟨some first, last⟩ value = ⟨some first, some value⟩ := rfl
      rw [List.foldl_cons, hadd, ih, List.getLast?_cons]
      cases rest.getLast? <;> rfl

theorem foldl_add_eq (values : List Int) :
    values.foldl Slots.add {} = ⟨(outermost values).1, (outermost values).2⟩ := by
  cases values with
  | nil => rfl
  | cons first rest =>
      have hadd : Slots.add {} first = ⟨some first, none⟩ := rfl
      rw [List.foldl_cons, hadd, foldl_add_of_first, Option.or_none]
      rfl

end Slots

/-! ### Agreement -/

/-- Two lists of arguments agree on the outermost values of each kind, and on whether universal time is
asked for. -/
structure Agree (arguments arguments' : List Argument) : Prop where
  day : outermost (arguments.filterMap Argument.day?) = outermost (arguments'.filterMap Argument.day?)
  month :
    outermost (arguments.filterMap Argument.month?) = outermost (arguments'.filterMap Argument.month?)
  year : outermost (arguments.filterMap Argument.year?) = outermost (arguments'.filterMap Argument.year?)
  gmt : arguments.any Argument.isGmt = arguments'.any Argument.isGmt

namespace Argument

/-- Two arguments are of one kind: two days, two months or two years. -/
def SameKind (a b : Argument) : Prop :=
  (a.day?.isSome ∧ b.day?.isSome) ∨ (a.month?.isSome ∧ b.month?.isSome) ∨
    (a.year?.isSome ∧ b.year?.isSome)

instance (a b : Argument) : Decidable (a.SameKind b) := inferInstanceAs (Decidable (_ ∨ _))

/-- An argument that a date range passes over: a number that is not finite, a text that is neither the
name of a month nor the marker of universal time, or nothing at all. -/
def SaysNothing : Argument → Prop
  | number x => x.isFinite = false
  | text s => placeOf? s monthNames = none ∧ isGmtWord s = false
  | missing => True

/-- These are just the arguments that give nothing and ask for nothing. -/
theorem saysNothing_iff (a : Argument) : a.SaysNothing ↔
    (a.day? = none ∧ a.month? = none ∧ a.year? = none) ∧ a.isGmt = false := by
  cases a with
  | number x =>
      have hint : (number x).int?.isSome = x.isFinite := by
        rw [Bool.eq_iff_iff, int?, Option.isSome_map, Number.isSome_truncate?_iff]
      cases h : (number x).int? with
      | none =>
          rw [h] at hint
          simp [SaysNothing, day?, month?, year?, text?, isGmt, h, ← hint]
      | some n =>
          rw [h] at hint
          by_cases hday : n ≤ lastDay <;>
            simp [SaysNothing, day?, year?, h, ← hint, Option.filter, hday]
  | text s => simp [SaysNothing, day?, month?, year?, text?, int?, isGmt]
  | missing => simp [SaysNothing, day?, month?, year?, text?, int?, isGmt]

end Argument

/-- Exactly the lists that agree leave the same in the slots. -/
theorem ofArguments_eq_iff_agree (arguments arguments' : List Argument) :
    DateFields.ofArguments arguments = DateFields.ofArguments arguments' ↔
      Agree arguments arguments' := by
  have hslots {values values' : List Int} :
      (⟨(outermost values).1, (outermost values).2⟩ : Slots) =
        ⟨(outermost values').1, (outermost values').2⟩ ↔ outermost values = outermost values' := by
    rw [Slots.mk.injEq, Prod.ext_iff]
  have hcast : Function.Injective (Nat.cast : Nat → Int) := fun _ _ => Int.natCast_inj.mp
  rw [DateFields.ofArguments_eq ⟨rfl, rfl, rfl⟩, DateFields.ofArguments_eq ⟨rfl, rfl, rfl⟩,
    DateFields.mk.injEq]
  simp only [foldl_add_eq, hslots, outermost_map_eq_iff hcast]
  exact ⟨fun ⟨hday, hmonth, hyear, hgmt⟩ => ⟨hday, hmonth, hyear, hgmt⟩,
    fun h => ⟨h.day, h.month, h.year, h.gmt⟩⟩

/-! ### Order and gaps -/

section Rearranged

variable {before after : List Argument} {a b : Argument}

/-- The order of neighbours counts only if they are of one kind. -/
theorem agree_swap (h : ¬ a.SameKind b) : Agree (before ++ a :: b :: after) (before ++ b :: a :: after) := by
  have hswap {α : Type} {f : Argument → Option α} (hf : ¬ ((f a).isSome ∧ (f b).isSome)) :
      (before ++ a :: b :: after).filterMap f = (before ++ b :: a :: after).filterMap f := by
    cases ha : f a with
    | none => simp [List.filterMap_append, List.filterMap_cons, ha]
    | some x =>
        cases hb : f b with
        | none => simp [List.filterMap_append, ha, hb]
        | some y => simp [ha, hb] at hf
  constructor
  · rw [hswap fun hday => h (.inl hday)]
  · rw [hswap fun hmonth => h (.inr (.inl hmonth))]
  · rw [hswap fun hyear => h (.inr (.inr hyear))]
  · simp only [List.any_append, List.any_cons, Bool.or_left_comm]

/-- What says nothing can be left out. -/
theorem agree_without {silent : List Argument} (h : ∀ c ∈ silent, c.SaysNothing) :
    Agree (before ++ silent ++ after) (before ++ after) := by
  have hnone {α : Type} {f : Argument → Option α} (hf : ∀ c : Argument, c.SaysNothing → f c = none) :
      (before ++ silent ++ after).filterMap f = (before ++ after).filterMap f := by
    have hsilent : silent.filterMap f = [] := List.filterMap_eq_nil_iff.mpr fun c hc => hf c (h c hc)
    simp only [List.filterMap_append, hsilent, List.append_nil]
  constructor
  · rw [hnone fun c hc => ((Argument.saysNothing_iff c).mp hc).1.1]
  · rw [hnone fun c hc => ((Argument.saysNothing_iff c).mp hc).1.2.1]
  · rw [hnone fun c hc => ((Argument.saysNothing_iff c).mp hc).1.2.2]
  · have hsilent : silent.any Argument.isGmt = false :=
      List.any_eq_false.mpr fun c hc => by rw [((Argument.saysNothing_iff c).mp (h c hc)).2]; decide
    simp only [List.any_append, hsilent, Bool.or_false]

end Rearranged

/-! ### What a date range tells apart -/

/-- Lists of arguments that agree, of whatever length, are the same to a date range, on every clock: it gives
the same answer, and where the clock's zone has no date it has none for either. Lists agree in particular
if one comes from the other by an exchange of neighbours that are not of one kind, or by leaving out what
says nothing. -/
theorem dateRange_eq_of_agree :
    (∀ arguments arguments' : List Argument, Agree arguments arguments' → ∀ now : Instant,
      dateRange now arguments = dateRange now arguments' ∧
        isTold now (DateFields.ofArguments arguments).gmt =
          isTold now (DateFields.ofArguments arguments').gmt) ∧
    (∀ (before after : List Argument) (a b : Argument), ¬ a.SameKind b →
      Agree (before ++ a :: b :: after) (before ++ b :: a :: after)) ∧
    ∀ before silent after : List Argument, (∀ c ∈ silent, c.SaysNothing) →
      Agree (before ++ silent ++ after) (before ++ after) := by
  refine ⟨?_, fun _ _ _ _ h => agree_swap h, fun _ _ _ h => agree_without h⟩
  intro arguments arguments' h now
  have hfields := (ofArguments_eq_iff_agree arguments arguments').mpr h
  simp only [dateRange, hfields, and_self]

/-- The days of an October, with a day between them that does not count and a gap; and the same in another
order, with a text that says nothing. -/
theorem dateRange_eq_of_agree_october :
    (Agree [.number 1, .text "oct", .number 17.5, .missing, .number 31, .text "GMT"]
        [.text "gmt", .text "OCT", .number 1, .text "holiday", .number 31] ∧
      dateRange (noon ⟨2026, 10, 31⟩)
          [.number 1, .text "oct", .number 17.5, .missing, .number 31, .text "GMT"] =
        dateRange (noon ⟨2026, 10, 31⟩) [.text "gmt", .text "OCT", .number 1, .text "holiday", .number 31]) ∧
    (¬ (Argument.text "OCT").SameKind (.number 1) ∧
      Agree [.text "gmt", .text "OCT", .number 1, .number 31]
        [.text "gmt", .number 1, .text "OCT", .number 31]) ∧
    (∀ c ∈ [Argument.text "holiday", .missing], c.SaysNothing) ∧
      Agree [.number 1, .text "holiday", .missing, .number 31] [.number 1, .number 31] := by
  have hagree : Agree [.number 1, .text "oct", .number 17.5, .missing, .number 31, .text "GMT"]
      [.text "gmt", .text "OCT", .number 1, .text "holiday", .number 31] :=
    ⟨by decide, by decide, by decide, by decide⟩
  have hkinds : ¬ (Argument.text "OCT").SameKind (.number 1) := by decide
  have hsilent : ∀ c ∈ [Argument.text "holiday", .missing], c.SaysNothing := by
    rw [List.forall_mem_cons, List.forall_mem_singleton]
    exact ⟨⟨by decide, by decide⟩, trivial⟩
  refine ⟨⟨hagree, ?_⟩, ⟨hkinds, ?_⟩, hsilent, ?_⟩
  · exact (dateRange_eq_of_agree.1 _ _ hagree _).1
  · exact dateRange_eq_of_agree.2.1 [.text "gmt"] [.number 31] _ _ hkinds
  · exact dateRange_eq_of_agree.2.2 [.number 1] _ [.number 31] hsilent

end AutoProxy.Predicate
