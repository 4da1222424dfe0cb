import AutoProxy.Proofs.Address.Quad

/-!
What is written for an address is read as this address again (`IPv6.ofChars?_toText`, `Address.ofChars?_toText`),
so that addresses with one text are equal (`Address.toText_inj`). In version six it does not matter which zero groups
are left out: any run of them that a pair of colons stands for is filled again (`ofChars?_gap`), and the run that is
left out is one (`longestZeros_spec`). A text without a colon is no address of version six, a dotted one no address
of any other version, which keeps the two notations apart.
-/

namespace AutoProxy

open Number

namespace IPv6

variable {gs front back : List UInt16} {cs : List Char} {c : Char}

/-! ### Groups -/

def groupDigits (g : UInt16) : List Char := Nat.toDigits 16 g.toNat

def joined (gs : List UInt16) : List Char := [':'].intercalate (gs.map groupDigits)

theorem toList_groupsText (gs : List UInt16) : (groupsText gs).toList = joined gs := by
  have hcolon : ":".toList = [':'] := rfl
  rw [groupsText, joined, String.toList_intercalate, hcolon, List.map_map]
  congr 1
  exact List.map_congr_left fun g _ => String.toList_ofList

theorem not_mem_groupDigits {g : UInt16} (hc : digitOf? 16 c = none) : c ∉ groupDigits g :=
  not_mem_toDigits (by decide) (by decide) hc

theorem group?_groupDigits (g : UInt16) : group? (groupDigits g) = some g := by
  have hlength : (groupDigits g).length ≤ 4 :=
    (Nat.length_toDigits_le_iff (by decide) (by decide)).mpr g.toNat_lt
  rw [group?, if_pos hlength, groupDigits, ofDigits?_toDigits_of_le (by decide) (by decide)]
  simp

theorem groups?_groupDigits (embedded : Bool) (gs : List UInt16) :
    groups? embedded (gs.map groupDigits) = some gs := by
  induction gs with
  | nil => rfl
  | cons g rest ih =>
      cases rest with
      | nil => simp [groups?, group?_groupDigits]
      | cons g' rest =>
          rw [List.map_cons] at ih ⊢
          rw [List.map_cons, groups?, group?_groupDigits, ih]
          simp

theorem joined_cons_cons (g g' : UInt16) (gs : List UInt16) :
    joined (g :: g' :: gs) = groupDigits g ++ ':' :: joined (g' :: gs) := by
  simp [joined, List.intercalate_cons_cons]

theorem joined_singleton (g : UInt16) : joined [g] = groupDigits g := by
  simp [joined]

theorem split_joined (h : gs ≠ []) : Text.split ':' (joined gs) = gs.map groupDigits := by
  rw [Text.split_eq_splitOn, joined, List.splitOn_intercalate]
  · intro digits hdigits
    obtain ⟨g, -, rfl⟩ := List.mem_map.mp hdigits
    exact not_mem_groupDigits (by decide)
  · simpa using h

/-- Groups begin with a digit. -/
theorem exists_joined_cons (g : UInt16) (gs : List UInt16) :
    ∃ c cs, c ≠ ':' ∧ joined (g :: gs) = c :: cs := by
  obtain ⟨c, cs, hdigits⟩ := List.exists_cons_of_ne_nil (l := groupDigits g) Nat.toDigits_ne_nil
  refine ⟨c, ?_⟩
  have hcolon : c ≠ ':' := by
    rintro rfl
    exact not_mem_groupDigits (g := g) (c := ':') (by decide) (by simp [hdigits])
  cases gs with
  | nil => exact ⟨cs, hcolon, by rw [joined_singleton, hdigits]⟩
  | cons g' rest => exact ⟨cs ++ ':' :: joined (g' :: rest), hcolon, by rw [joined_cons_cons, hdigits]; rfl⟩

/-- The groups on one side of a gap are read, also when there are none. -/
theorem side?_joined (embedded : Bool) (gs : List UInt16) : side? embedded (joined gs) = some gs := by
  cases gs with
  | nil => rfl
  | cons g rest =>
      obtain ⟨c, cs, -, hcons⟩ := exists_joined_cons g rest
      have hne : (joined (g :: rest)).isEmpty = false := by rw [hcons]; rfl
      rw [side?, if_neg (by simp [hne]), split_joined (by simp), groups?_groupDigits]

/-! ### Gaps -/

/-- A gap lies behind all characters that are no colons. -/
theorem cutGap_append (h : ':' ∉ cs) (tail : List Char) :
    cutGap (cs ++ tail) = (cutGap tail).map fun (before, after) => (cs ++ before, after) := by
  induction cs with
  | nil => simp
  | cons c rest ih =>
      obtain ⟨hc, hrest⟩ := List.ne_and_not_mem_of_not_mem_cons h
      rw [List.cons_append, cutGap, ih hrest]
      · simp [Function.comp_def]
      · rintro rest rfl
        exact absurd rfl hc

/-- There is no gap within groups with colons between them. -/
theorem cutGap_joined_append (gs : List UInt16) (tail : List Char) :
    cutGap (joined gs ++ tail) = (cutGap tail).map fun (before, after) => (joined gs ++ before, after) := by
  induction gs with
  | nil => simp [joined]
  | cons g rest ih =>
      have hdigits : ':' ∉ groupDigits g := not_mem_groupDigits (by decide)
      cases rest with
      | nil => rw [joined_singleton, cutGap_append hdigits]
      | cons g' rest =>
          obtain ⟨c, cs, hc, hcons⟩ := exists_joined_cons g' rest
          rw [hcons] at ih
          -- one colon only, since a digit follows it
          have hcolon : cutGap (':' :: (c :: cs ++ tail)) =
              (cutGap (c :: cs ++ tail)).map fun (before, after) => (':' :: before, after) := by
            rw [List.cons_append, cutGap]
            intro rest _ h
            exact hc (List.cons.inj h).1
          rw [joined_cons_cons, List.append_assoc, cutGap_append hdigits, List.cons_append, hcons, hcolon, ih]
          simp [Function.comp_def]

/-- Groups without a gap are an address if there are eight of them. -/
theorem ofChars?_joined (h : gs ≠ []) : ofChars? (joined gs) = ofGroups? gs := by
  have hcut : cutGap (joined gs) = none := by
    simpa [cutGap] using cutGap_joined_append gs []
  rw [ofChars?, hcut]
  simp [split_joined h, groups?_groupDigits]

/-- A gap is filled with zero groups. -/
theorem ofChars?_gap (h : front.length + back.length ≤ 7) :
    ofChars? (joined front ++ ':' :: ':' :: joined back) =
      ofGroups? (front ++ List.replicate (8 - (front.length + back.length)) 0 ++ back) := by
  have hcut : cutGap (joined front ++ ':' :: ':' :: joined back) = some (joined front, joined back) := by
    simp [cutGap_joined_append, cutGap]
  rw [ofChars?, hcut]
  simp only [side?_joined, if_pos h]

/-! ### The run that is left out -/

theorem replicate_zeros_append_drop (gs : List UInt16) :
    List.replicate (zeros gs) 0 ++ gs.drop (zeros gs) = gs := by
  have hzero : gs.takeWhile (· == 0) = List.replicate (zeros gs) 0 :=
    List.eq_replicate_iff.mpr ⟨rfl, fun g hg => by simpa using List.mem_takeWhile_imp hg⟩
  rw [← hzero]
  exact List.prefix_iff_eq_append.mp (List.takeWhile_prefix _)

/-- The longest run of zero groups is a run of them. -/
theorem longestZeros_spec {index start length : Nat} (h : longestZeros index gs = (start, length)) :
    ∃ skipped, start = index + skipped ∧
      gs = gs.take skipped ++ List.replicate length 0 ++ gs.drop (skipped + length) := by
  induction gs generalizing index with
  | nil =>
      cases h
      exact ⟨0, rfl, rfl⟩
  | cons g rest ih =>
      rw [longestZeros] at h
      split at h
      · cases h
        exact ⟨0, rfl, by simp [replicate_zeros_append_drop]⟩
      · obtain ⟨skipped, rfl, hrun⟩ := ih h
        refine ⟨skipped + 1, by omega, ?_⟩
        rw [List.take_succ_cons, Nat.add_right_comm, List.drop_succ_cons, List.cons_append, List.cons_append,
          ← hrun]

/-- Eight groups are read from the notation that leaves their longest run of zeros out. -/
theorem ofChars?_compressed (h : gs.length = 8) : ofChars? (compressed gs).toList = ofGroups? gs := by
  cases hlongest : longestZeros 0 gs with
  | mk start length =>
  obtain ⟨skipped, hstart, hrun⟩ := longestZeros_spec hlongest
  obtain rfl : start = skipped := by omega
  rw [compressed, hlongest]
  dsimp only
  by_cases hshort : length ≤ 1
  · rw [if_pos hshort, toList_groupsText]
    exact ofChars?_joined (by rintro rfl; cases h)
  · have hlengths : 8 = (gs.take start).length + length + (gs.drop (start + length)).length := by
      rw [← h]
      simpa only [List.length_append, List.length_replicate] using congrArg List.length hrun
    have hgap : "::".toList = [':', ':'] := rfl
    rw [if_neg hshort, String.toList_append, String.toList_append, toList_groupsText, toList_groupsText, hgap,
      List.append_assoc]
    have hfill : 8 - ((gs.take start).length + (gs.drop (start + length)).length) = length := by omega
    rw [List.cons_append, List.singleton_append, ofChars?_gap (by omega), hfill, ← hrun]

/-! ### Addresses -/

/-- The notation of an address of version four mapped into version six. -/
theorem ofChars?_mapped (a : IPv4) :
    ofChars? ("::ffff:" ++ a.toText).toList = ofGroups? ([0, 0, 0, 0, 0, 0xFFFF] ++ ofEmbedded a) := by
  have hquad := IPv4.isQuad_toText a
  have hgroup : group? a.toText.toList = none := by
    have hlength := hquad.length_ge
    rw [group?, if_neg (by omega)]
  have hdotted : Text.split ':' a.toText.toList = [a.toText.toList] :=
    Text.split_of_not_mem (hquad.not_mem (by decide) (by decide))
  have hsplit : Text.split ':' ("ffff:".toList ++ a.toText.toList) = ["ffff".toList, a.toText.toList] := by
    have hfront : "ffff:".toList = "ffff".toList ++ [':'] := rfl
    rw [hfront, List.append_assoc, List.singleton_append, Text.split_append_cons, hdotted]
    rfl
  have hside : side? true ("ffff:".toList ++ a.toText.toList) = some (0xFFFF :: ofEmbedded a) := by
    have hffff : group? "ffff".toList = some 0xFFFF := by decide
    rw [side?, if_neg (by simp), hsplit]
    simp only [groups?, hffff, hgroup, IPv4.ofChars?_toText, if_true, Option.map_some]
  have hcut : cutGap ("::ffff:" ++ a.toText).toList = some ([], "ffff:".toList ++ a.toText.toList) := by
    rw [String.toList_append]
    rfl
  rw [ofChars?, hcut]
  simp only [hside]
  rfl

/-- What is written for an address is read as this address. -/
theorem ofChars?_toText (a : IPv6) : ofChars? a.toText.toList = some a := by
  have hgroups : ofGroups? a.groups = some a := dif_pos a.length_groups
  rw [← hgroups, toText]
  split
  · next high low heq =>
    rw [ofChars?_mapped, heq]
    have hhigh := high.toNat_lt
    have hlow := low.toNat_lt
    have hnumber : (UInt32.ofNat (high.toNat * 65536 + low.toNat)).toNat = high.toNat * 65536 + low.toNat := by
      rw [UInt32.toNat_ofNat', Nat.mod_eq_of_lt (by omega)]
    have hembedded : ofEmbedded ⟨UInt32.ofNat (high.toNat * 65536 + low.toNat)⟩ = [high, low] := by
      have hdiv : (high.toNat * 65536 + low.toNat) / 65536 = high.toNat := by omega
      have hmod : (high.toNat * 65536 + low.toNat) % 65536 = low.toNat := by omega
      rw [ofEmbedded, hnumber, hdiv, hmod, UInt16.ofNat_toNat, UInt16.ofNat_toNat]
    rw [hembedded]
    rfl
  · exact ofChars?_compressed a.length_groups

/-- Groups are written with digits and colons. -/
theorem not_mem_joined (hc : digitOf? 16 c = none) (hcolon : c ≠ ':') : c ∉ joined gs := by
  induction gs with
  | nil => simp [joined]
  | cons g rest ih =>
      cases rest with
      | nil => simpa [joined_singleton] using not_mem_groupDigits hc
      | cons g' rest => simp [joined_cons_cons, not_mem_groupDigits hc, hcolon, ih]

theorem not_mem_compressed (hc : digitOf? 16 c = none) (hcolon : c ≠ ':') : c ∉ (compressed gs).toList := by
  have hgap : "::".toList = [':', ':'] := rfl
  rw [compressed]
  split
  simp only [apply_ite String.toList, String.toList_append, toList_groupsText, hgap]
  split
  · exact not_mem_joined hc hcolon
  · simp [not_mem_joined hc hcolon, hcolon]

/-- An address of version six has a colon in its text. -/
theorem ofChars?_of_not_mem (h : ':' ∉ cs) : ofChars? cs = none := by
  have hcut : cutGap cs = none := by
    simpa [cutGap] using cutGap_append h []
  rw [ofChars?, hcut, Text.split_of_not_mem h]
  rw [groups?]
  cases group? cs with
  | some g => rfl
  | none => cases IPv4.ofChars? cs <;> rfl

end IPv6

namespace Address

variable {a b : Address}

/-- What is written for an address is read as this address, of the same version. -/
theorem ofChars?_toText (a : Address) : ofChars? a.toText.toList = some a := by
  cases a with
  | v4 a => rw [ofChars?, toText, IPv4.ofChars?_toText]
  | v6 a =>
      have hnone : IPv4.ofChars? a.toText.toList = none := by
        by_contra hne
        obtain ⟨b, hb⟩ := Option.ne_none_iff_exists'.mp hne
        have hcolon := (IPv4.ofChars?_eq_some_iff.mp hb).not_mem (c := ':') (by decide) (by decide)
        simpa [IPv6.ofChars?_of_not_mem hcolon] using IPv6.ofChars?_toText a
      rw [ofChars?, toText, hnone, IPv6.ofChars?_toText]
      rfl

/-- Addresses with the same text are equal. -/
theorem toText_inj : a.toText = b.toText ↔ a = b := by
  constructor
  · intro h
    have hread := ofChars?_toText a
    rw [h, ofChars?_toText] at hread
    exact (Option.some.inj hread).symm
  · exact congrArg toText

theorem toText_ne_empty (a : Address) : a.toText ≠ "" := by
  intro h
  have hread := ofChars?_toText a
  rw [h] at hread
  cases hread

/-- An address is written with digits, dots and colons. -/
theorem not_mem_toText {c : Char} (hc : digit? c = none) (hcolon : c ≠ ':') (hdot : c ≠ '.') :
    c ∉ a.toText.toList := by
  have hdigit (b : Nat) : digitOf? b c = none := by rw [digitOf?, hc]
  have hquad (a : IPv4) := (IPv4.isQuad_toText a).not_mem (hdigit 10) hdot
  cases a with
  | v4 a => exact hquad a
  | v6 a =>
      rw [toText, IPv6.toText]
      split
      · have hf : c ≠ 'f' := by
          rintro rfl
          cases hc
        have hfront : "::ffff:".toList = [':', ':', 'f', 'f', 'f', 'f', ':'] := rfl
        simp [String.toList_append, hfront, hcolon, hf, hquad]
      · exact IPv6.not_mem_compressed (hdigit 16) hcolon

end Address

end AutoProxy
