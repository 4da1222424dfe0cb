import AutoProxy.Proofs.Answer.Account
import AutoProxy.Proofs.Answer.Address

/-!
The port of a proxy. A segment of a keyword, a host, a colon and a text names the proxy at the host and the
port that the text denotes, and is rejected if it denotes none: if it is anything but decimal digits behind
an optional plus sign, or if their number, however long they are, is zero or more than 65535
(`outcome_of_port`). It does not matter in which case the letters of the keyword are, how many blanks of
what kind stand behind the keyword and around the colon, and whether the host is written by itself or in
brackets (`Written`).
-/

namespace AutoProxy

open Text

namespace Answer

variable {p : Protocol} {segment word gap address host text shown blanks : List Char}

theorem WithPort.address_ne_nil (h : WithPort host text address) : address ≠ [] := by
  cases h <;> simp

/-- Where a port is given, the proxy is read at the host and that port. -/
theorem readEndpoint_of_withPort {byDefault : UInt16} (h : WithPort host text address) (hne : host ≠ []) :
    readEndpoint address byDefault =
      match port? text with
      | some v => .ok ⟨String.ofList host, v⟩
      | none => .error (.invalidPort (String.ofList text)) := by
  have hhost : host.isEmpty = false := by simpa using hne
  rw [readEndpoint, cutPort_of_withPort h]
  cases hport : port? text with
  | some v => simp [hhost, hport]
  | none => simp [hhost, hport]

/-- A host as it stands before a colon and a text: by itself if no colon shows where it ends but that one,
or in brackets. -/
inductive Written (host text : List Char) : List Char → Prop where
  | bare (hopen : host.head? ≠ some '[') (hhost : ':' ∉ host) (htext : ':' ∉ text) : Written host text host
  | bracketed (hclose : ']' ∉ host) : Written host text ('[' :: (host ++ [']']))

/-- A written host begins with something that is not blank. -/
theorem Written.isBlank_head (h : Written host text shown) (hne : host ≠ []) (htrimmed : IsTrimmed host) :
    ∃ c rest, shown = c :: rest ∧ isBlank c = false := by
  cases h with
  | bare hopen hhost htext =>
      obtain ⟨c, rest, rfl⟩ := List.exists_cons_of_ne_nil hne
      exact ⟨c, rest, rfl, htrimmed.head c rfl⟩
  | bracketed hclose => exact ⟨'[', host ++ [']'], rfl, by decide⟩

/-- A written host, blanks, a colon and a text are an address with a port. -/
theorem Written.withPort (h : Written host text shown) (hne : host ≠ []) (htrimmed : IsTrimmed host)
    (hblanks : ∀ c ∈ blanks, isBlank c = true) :
    WithPort host (trim text) (trim (shown ++ blanks ++ ':' :: text)) := by
  have haddress : trim (shown ++ blanks ++ ':' :: text) = shown ++ blanks ++ ':' :: trimEnd text := by
    obtain ⟨c, rest, rfl, hc⟩ := h.isBlank_head hne htrimmed
    rw [trim_append_cons _ _ (by decide), List.cons_append, trimStart_cons_of_not_blank hc]
  rw [haddress, ← trim_trimEnd text]
  cases h with
  | bare hopen hhost htext =>
      have hfront : ':' ∉ host ++ blanks := by
        intro hmem
        rcases List.mem_append.mp hmem with hmem | hmem
        · exact hhost hmem
        · exact absurd (hblanks ':' hmem) (by decide)
      have hback : ':' ∉ trimEnd text := fun hmem => htext ((List.rdropWhile_prefix isBlank text).subset hmem)
      have hhead : (host ++ blanks).head? ≠ some '[' := by
        obtain ⟨c, rest, rfl⟩ := List.exists_cons_of_ne_nil hne
        exact hopen
      have hplain := WithPort.plain hhead hfront hback
      rwa [trim_append_blank hblanks, trim_eq_self_iff.mpr htrimmed] at hplain
  | bracketed hclose =>
      have hbracketed := @WithPort.bracketed host blanks (trimEnd text) hclose hblanks
      rw [trim_eq_self_iff.mpr htrimmed] at hbracketed
      simpa using hbracketed

/-- The text behind the colon decides: the proxy at the host and the port that the text denotes is named, and
if it denotes none from 1 to 65535 the segment is rejected for that text. One blank at least stands behind
the keyword, which would go on otherwise; the blanks behind the colon are part of the text. -/
theorem outcome_of_port (hsegment : segment = word ++ gap ++ (shown ++ blanks ++ ':' :: text))
    (hword : p.IsKeyword word) (hgap : gap ≠ []) (hgapBlank : ∀ c ∈ gap, isBlank c = true)
    (hne : host ≠ []) (htrimmed : IsTrimmed host) (hshown : Written host text shown)
    (hblanks : ∀ c ∈ blanks, isBlank c = true) :
    (∀ v : UInt16, outcome segment = .inl (.proxy p ⟨String.ofList host, v⟩) ↔
      1 ≤ v.toNat ∧ v.toNat ≤ 65535 ∧ Number.Denotes (trim text) v.toNat) ∧
      ((¬ ∃ n, 1 ≤ n ∧ n ≤ 65535 ∧ Number.Denotes (trim text) n) →
        outcome segment = .inr ⟨String.ofList segment, .invalidPort (String.ofList (trim text))⟩) := by
  have hport := hshown.withPort hne htrimmed hblanks
  have hread := readSegment_append hword hgap hgapBlank hport.address_ne_nil
  rw [← hsegment, readEndpoint_of_withPort hport hne] at hread
  constructor
  · intro v
    have hbound : v.toNat ≤ 65535 := Nat.le_of_lt_succ v.toNat_lt
    rw [and_iff_right hbound, ← port?_eq_some_iff, outcome, hread]
    cases port? (trim text) <;> simp [Except.map]
  · intro hnone
    have hport : port? (trim text) = none := by
      rw [Option.eq_none_iff_forall_not_mem]
      intro v hv
      obtain ⟨hlow, hdenotes⟩ := port?_eq_some_iff.mp hv
      exact hnone ⟨v.toNat, hlow, Nat.le_of_lt_succ v.toNat_lt, hdenotes⟩
    rw [outcome, hread, hport]
    rfl

/-- The largest port with a sign and leading zeros, and the number after it, with blanks of many kinds. -/
theorem outcome_of_port_largest :
    outcome "sOcKs4\u3000\t[fe80::1]\u2003 : +0065535\u00a0".toList =
        .inl (.proxy .socks4 ⟨"fe80::1", 65535⟩) ∧
      outcome "http\u2028a b:65536".toList = .inr ⟨"http\u2028a b:65536", .invalidPort "65536"⟩ := by
  constructor
  · have hparts : "sOcKs4\u3000\t[fe80::1]\u2003 : +0065535\u00a0".toList =
        "sOcKs4".toList ++ ['\u3000', '\t'] ++ ("[fe80::1]".toList ++ ['\u2003', ' '] ++
          ':' :: " +0065535\u00a0".toList) := by decide
    have hhost : Written "fe80::1".toList " +0065535\u00a0".toList "[fe80::1]".toList :=
      .bracketed (by decide)
    have hword : Protocol.socks4.IsKeyword "sOcKs4".toList :=
      ⟨"SOCKS4", .tail _ (.tail _ (.tail _ (.tail _ (.head _)))), by decide⟩
    have hread := outcome_of_port hparts hword (by decide) (List.all_eq_true.mp (by decide)) (by decide)
      (by decide) hhost (List.all_eq_true.mp (by decide))
    exact (hread.1 65535).mpr ⟨by decide, by decide, Number.denotes_iff.mpr (by decide)⟩
  · have hparts : "http\u2028a b:65536".toList =
        "http".toList ++ ['\u2028'] ++ ("a b".toList ++ [] ++ ':' :: "65536".toList) := by decide
    have hhost : Written "a b".toList "65536".toList "a b".toList := .bare (by decide) (by decide) (by decide)
    have hword : Protocol.http.IsKeyword "http".toList := ⟨"HTTP", .tail _ (.head _), by decide⟩
    have hread := outcome_of_port hparts hword (by decide) (List.all_eq_true.mp (by decide)) (by decide)
      (by decide) hhost (List.all_eq_true.mp (by decide))
    refine hread.2 ?_
    rintro ⟨n, -, hsmall, hdenotes⟩
    have hnumber : Number.ofDigits? 10 (Number.withoutPlus (trim "65536".toList)) = some 65536 := by decide
    rw [Number.denotes_iff, hnumber] at hdenotes
    cases hdenotes
    exact absurd hsmall (by decide)

end Answer

end AutoProxy
