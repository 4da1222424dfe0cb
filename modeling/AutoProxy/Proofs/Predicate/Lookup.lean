import Mathlib.Data.List.Nodup
import AutoProxy.Predicate.Host
import AutoProxy.Proofs.Address.Notation

/-!
What the predicates that look a host up say about it. All of them tell of the same addresses, those that the lookup
finds, each one at the place where it is found first (`isFirstsOf_addresses`). The texts of addresses are not empty
and have no semicolon, so the list of all of them can be taken apart again, and an empty text stands for no address.
The main result is `dnsPredicates_agree`.
-/

namespace AutoProxy

/-! ### Each address once -/

/-- The members of `found`, each once, in the order of the places where they come first in it. -/
structure IsFirstsOf (found firsts : List Address) : Prop where
  mem_iff : ∀ a, a ∈ firsts ↔ a ∈ found
  ordered : firsts.Pairwise fun a b => found.idxOf a < found.idxOf b

namespace IsFirstsOf

variable {found firsts : List Address}

theorem nodup (h : IsFirstsOf found firsts) : firsts.Nodup :=
  h.ordered.imp fun hlt heq => absurd hlt (by simp [heq])

theorem eq_nil_iff (h : IsFirstsOf found firsts) : firsts = [] ↔ found = [] := by
  simp only [List.eq_nil_iff_forall_not_mem, h.mem_iff]

end IsFirstsOf

section Distinct

variable {seen found : List Address} {a : Address}

theorem mem_distinctAfter : a ∈ distinctAfter seen found ↔ a ∈ found ∧ a ∉ seen := by
  induction found generalizing seen with
  | nil => simp [distinctAfter]
  | cons b rest ih =>
      rw [distinctAfter]
      by_cases hb : b ∈ seen
      · rw [if_pos (List.contains_iff_mem.mpr hb), ih, List.mem_cons]
        constructor
        · exact fun ⟨ha, hseen⟩ => ⟨.inr ha, hseen⟩
        · rintro ⟨rfl | ha, hseen⟩
          · exact absurd hb hseen
          · exact ⟨ha, hseen⟩
      · rw [if_neg (by simpa using hb), List.mem_cons, ih, List.mem_cons, List.mem_cons]
        grind

theorem pairwise_distinctAfter :
    (distinctAfter seen found).Pairwise fun a b => found.idxOf a < found.idxOf b := by
  induction found generalizing seen with
  | nil => simp [distinctAfter]
  | cons b rest ih =>
      -- What is found behind `b` and is not `b` keeps its order, all of it one place further.
      have hlater : ∀ {seen : List Address}, b ∈ seen →
          (distinctAfter seen rest).Pairwise fun x y => (b :: rest).idxOf x < (b :: rest).idxOf y := by
        intro seen hb
        refine ih.imp_of_mem fun hx hy hlt => ?_
        have hx' := (mem_distinctAfter.mp hx).2
        have hy' := (mem_distinctAfter.mp hy).2
        rw [List.idxOf_cons_ne _ (by grind), List.idxOf_cons_ne _ (by grind)]
        omega
      rw [distinctAfter]
      by_cases hb : b ∈ seen
      · rw [if_pos (List.contains_iff_mem.mpr hb)]
        exact hlater hb
      · rw [if_neg (by simpa using hb), List.pairwise_cons]
        refine ⟨fun x hx => ?_, hlater List.mem_cons_self⟩
        have hne : b ≠ x := by
          rintro rfl
          exact (mem_distinctAfter.mp hx).2 List.mem_cons_self
        rw [List.idxOf_cons_self, List.idxOf_cons_ne _ hne]
        omega

end Distinct

/-- What the lookup answers for a host, blanks around its name ignored; it is not asked for a blank name. -/
def Lookup.found (lookup : Lookup) (host : String) : List Address :=
  if (Text.trim host.toList).isEmpty then [] else lookup (Text.trim host.toList)

theorem isFirstsOf_addresses (lookup : Lookup) (host : String) :
    IsFirstsOf (lookup.found host) (lookup.addresses host) := by
  rw [Lookup.found, Lookup.addresses]
  split
  · exact ⟨fun a => Iff.rfl, List.Pairwise.nil⟩
  · exact ⟨fun a => by simp [mem_distinctAfter], pairwise_distinctAfter⟩

/-! ### Lists of texts -/

section SplitAtPair

variable {a b c : Char} {cs part : List Char}

/-- The parts of a text between the places where the two characters stand in it, one behind the other. -/
def splitAtPair (a b : Char) : List Char → List (List Char)
  | [] => [[]]
  | [c] => [[c]]
  | c :: d :: cs =>
    if c = a ∧ d = b then [] :: splitAtPair a b cs
    else (splitAtPair a b (d :: cs)).modifyHead (c :: ·)

theorem splitAtPair_cons (hc : c ≠ a) :
    splitAtPair a b (c :: cs) = (splitAtPair a b cs).modifyHead (c :: ·) := by
  cases cs with
  | nil => rfl
  | cons d rest => rw [splitAtPair, if_neg fun h => hc h.1]

theorem splitAtPair_of_not_mem (h : a ∉ part) : splitAtPair a b part = [part] := by
  induction part with
  | nil => rfl
  | cons c rest ih =>
      obtain ⟨hc, hrest⟩ := List.ne_and_not_mem_of_not_mem_cons h
      rw [splitAtPair_cons hc.symm, ih hrest]
      rfl

theorem splitAtPair_append (h : a ∉ part) (cs : List Char) :
    splitAtPair a b (part ++ a :: b :: cs) = part :: splitAtPair a b cs := by
  induction part with
  | nil => rw [List.nil_append, splitAtPair, if_pos ⟨rfl, rfl⟩]
  | cons c rest ih =>
      obtain ⟨hc, hrest⟩ := List.ne_and_not_mem_of_not_mem_cons h
      rw [List.cons_append, splitAtPair_cons hc.symm, ih hrest]
      rfl

/-- Texts without the first of the two characters are found again between the pairs. -/
theorem splitAtPair_intercalate {parts : List (List Char)} (hne : parts ≠ []) (h : ∀ part ∈ parts, a ∉ part) :
    splitAtPair a b ([a, b].intercalate parts) = parts := by
  induction parts with
  | nil => exact absurd rfl hne
  | cons part rest ih =>
      have hpart : a ∉ part := h part List.mem_cons_self
      cases rest with
      | nil => rw [List.intercalate_singleton, splitAtPair_of_not_mem hpart]
      | cons next rest =>
          rw [List.intercalate_cons_cons, List.append_assoc, List.cons_append, List.singleton_append,
            splitAtPair_append hpart, ih (by simp) fun p hp => h p (List.mem_cons_of_mem _ hp)]

end SplitAtPair

/-! ### The predicates -/

namespace Predicate

variable {lookup : Lookup} {host : String}

/-- The parts of a text between the places where a semicolon and a space stand in it. -/
def entries (text : String) : List String := (splitAtPair ';' ' ' text.toList).map String.ofList

/-- The list of all addresses is taken apart into their texts. -/
theorem entries_dnsResolveEx (lookup : Lookup) (host : String) :
    entries (dnsResolveEx lookup host) =
      if lookup.addresses host = [] then [""] else (lookup.addresses host).map Address.toText := by
  split
  · next hnil =>
    rw [dnsResolveEx, hnil]
    rfl
  · next hne =>
    have hpair : "; ".toList = [';', ' '] := rfl
    rw [entries, dnsResolveEx, String.toList_intercalate, hpair, splitAtPair_intercalate (by simpa using hne)]
    · simp
    · intro part hpart
      obtain ⟨a, -, rfl⟩ : ∃ a ∈ lookup.addresses host, a.toText.toList = part := by simpa using hpart
      exact Address.not_mem_toText (by decide) (by decide) (by decide)

theorem isResolvable_eq_false_iff : isResolvable lookup host = false ↔ lookup.addresses host = [] := by
  simp [isResolvable]

theorem dnsResolveEx_eq_empty_iff : dnsResolveEx lookup host = "" ↔ lookup.addresses host = [] := by
  constructor
  · intro h
    by_contra hne
    have hentries := entries_dnsResolveEx lookup host
    rw [if_neg hne, h] at hentries
    have hempty : "" ∈ (lookup.addresses host).map Address.toText := hentries ▸ List.mem_singleton_self _
    obtain ⟨a, -, ha⟩ := List.mem_map.mp hempty
    exact a.toText_ne_empty ha
  · intro h
    rw [dnsResolveEx, h]
    rfl

/-- The text is that of the first address of version four, of the first address if none is of version four, and
empty if there is no address at all. -/
def IsPreferred (addresses : List Address) (text : String) : Prop :=
  (∃ front a back, addresses = front ++ a :: back ∧ a.isV4 = true ∧ (∀ b ∈ front, b.isV4 = false) ∧
    text = a.toText) ∨
  (∀ b ∈ addresses, b.isV4 = false) ∧ text = (addresses.head?.map Address.toText).getD ""

theorem isPreferred_dnsResolve (lookup : Lookup) (host : String) :
    IsPreferred (lookup.addresses host) (dnsResolve lookup host) := by
  rw [dnsResolve]
  cases hfind : (lookup.addresses host).find? Address.isV4 with
  | some a =>
      obtain ⟨hv4, front, back, heq, hfront⟩ := List.find?_eq_some_iff_append.mp hfind
      exact .inl ⟨front, a, back, heq, hv4, by simpa using hfront, rfl⟩
  | none =>
      refine .inr ⟨by simpa using hfind, ?_⟩
      cases lookup.addresses host <;> rfl

theorem IsPreferred.eq_empty_iff {addresses : List Address} {text : String} (h : IsPreferred addresses text) :
    text = "" ↔ addresses = [] := by
  rcases h with ⟨front, a, back, rfl, -, -, rfl⟩ | ⟨-, rfl⟩
  · simp [a.toText_ne_empty]
  · cases addresses with
    | nil => simp
    | cons a rest => simp [a.toText_ne_empty]

/-- The predicates tell of the same addresses, all those that the lookup finds: whether there are any, the preferred
one, and the list of all of them, each once, in the order in which they are found. -/
theorem dnsPredicates_agree (lookup : Lookup) (host : String) :
    (isResolvable lookup host = false ↔ dnsResolve lookup host = "") ∧
    (dnsResolve lookup host = "" ↔ dnsResolveEx lookup host = "") ∧
    (dnsResolveEx lookup host = "" ↔ lookup.found host = []) ∧
    ∃ addresses, IsFirstsOf (lookup.found host) addresses ∧ addresses.Nodup ∧
      entries (dnsResolveEx lookup host) =
        (if addresses = [] then [""] else addresses.map Address.toText) ∧
      (entries (dnsResolveEx lookup host)).Nodup ∧
      IsPreferred addresses (dnsResolve lookup host) := by
  have hfirsts := isFirstsOf_addresses lookup host
  have hpreferred := isPreferred_dnsResolve lookup host
  have hentries := entries_dnsResolveEx lookup host
  refine ⟨?_, ?_, ?_, lookup.addresses host, hfirsts, hfirsts.nodup, hentries, ?_, hpreferred⟩
  · rw [isResolvable_eq_false_iff, hpreferred.eq_empty_iff]
  · rw [hpreferred.eq_empty_iff, dnsResolveEx_eq_empty_iff]
  · rw [dnsResolveEx_eq_empty_iff, hfirsts.eq_nil_iff]
  · rw [hentries]
    split
    · simp
    · exact hfirsts.nodup.map fun a b => Address.toText_inj.mp

-- What is found twice is listed where it comes first, and behind it the address that is preferred.
example :
    let here : Address := .v6 ⟨[0, 0, 0, 0, 0, 0, 0, 1], rfl⟩
    let lookup : Lookup := fun _ => [here, Lookup.loopback, here]
    dnsResolveEx lookup " here " = "::1; 127.0.0.1" ∧ dnsResolve lookup " here " = "127.0.0.1" := by
  decide

end Predicate

end AutoProxy
