import AutoProxy.Location
import AutoProxy.Selection
import AutoProxy.Proofs.Text
import AutoProxy.Proofs.Utf8

/-!
Hosts of addresses, and their texts. A host that an address names is never blank
(`Url.isBlankString_of_ofText`), so that a request for an address is never refused for its
host. The host as an address writes it and the host by itself are one text for domains and for
version four, and never the same text for version six (`sameWord_toText_bareText_iff`).
-/

namespace AutoProxy

open Text

theorem Text.isBlankString_eq_false_iff {s : String} :
    isBlankString s = false ↔ ∃ c ∈ s.toList, isBlank c = false := by
  simp [isBlankString]

/-- What a row of results holds comes from the row that it was made of. -/
theorem exists_of_mem_mapM {α β : Type} {f : α → Option β} {xs : List α} {ys : List β} {y : β}
    (h : xs.mapM f = some ys) (hy : y ∈ ys) : ∃ x ∈ xs, f x = some y := by
  induction xs generalizing ys with
  | nil =>
      cases h
      simp at hy
  | cons x rest ih =>
      simp only [List.mapM_cons, Option.bind_eq_bind, Option.bind_eq_some_iff] at h
      obtain ⟨first, hfirst, others, hothers, heq⟩ := h
      cases heq
      rcases List.mem_cons.mp hy with rfl | hy
      · exact ⟨x, by simp, hfirst⟩
      · obtain ⟨x', hx', hread⟩ := ih hothers hy
        exact ⟨x', by simp [hx'], hread⟩

/-! ### Domain names -/

namespace Domain

variable {label : List Char}

/-- What a label reads as is in order. -/
theorem isLabel_of_readLabel? {read : List Char} (h : readLabel? label = some read) :
    isLabel read = true := by
  unfold readLabel? at h
  split at h
  · split at h
    · next text _ decoded _ =>
      split at h
      · next hcond =>
        simp only [Option.some.injEq] at h
        subst h
        simp_all
      · cases h
    · cases h
  · split at h
    · next hlabel =>
      simp only [Option.some.injEq] at h
      subst h
      exact hlabel
    · cases h

theorem isBlank_of_not_isForbidden {c : Char} (h : isForbidden c = false) (hascii : c.toNat < 128) :
    isBlank c = false := by
  simp only [isForbidden, Bool.or_eq_false_iff, decide_eq_false_iff_not] at h
  simp only [isBlank, Bool.or_eq_false_iff, Bool.and_eq_false_iff, decide_eq_false_iff_not,
    beq_eq_false_iff_ne]
  omega

/-- A label in ASCII is empty or begins with a character that is not blank. -/
theorem head_writeLabel (h : isLabel label = true) :
    ∀ c ∈ (writeLabel label).head?, isBlank c = false := by
  intro c hc
  unfold writeLabel at hc
  split at hc
  · next hascii =>
    have hmem := List.mem_of_mem_head? hc
    have hfit : isForbidden c = false := by
      simp only [isLabel, Bool.and_eq_true, List.all_eq_true, Bool.not_eq_true'] at h
      exact (h.1.2 c hmem).2
    exact isBlank_of_not_isForbidden hfit (by simpa using List.all_eq_true.mp hascii c hmem)
  · have hmark : aceMark = ['x', 'n', '-', '-'] := by decide
    simp only [hmark, List.cons_append, List.head?_cons, Option.mem_def, Option.some.injEq] at hc
    subst hc
    decide

/-- A domain name in ASCII is empty or holds a character that is not blank. -/
theorem exists_not_blank_of_toAscii? {name ascii : List Char} (h : toAscii? name = some ascii)
    (hne : ascii ≠ []) : ∃ c ∈ ascii, isBlank c = false := by
  simp only [toAscii?, Option.bind_eq_bind, Option.bind_eq_some_iff] at h
  obtain ⟨mapped, -, labels, hlabels, h⟩ := h
  have hlabel : ∀ label ∈ labels, isLabel label = true := by
    intro label hmem
    obtain ⟨part, -, hread⟩ := exists_of_mem_mapM hlabels hmem
    exact isLabel_of_readLabel? hread
  split at h
  · cases h
  · simp only [Option.pure_def, Option.some.injEq] at h
    subst h
    cases labels with
    | nil => simp at hne
    | cons first rest =>
        cases rest with
        | nil =>
            simp only [List.map_cons, List.map_nil, List.intercalate_singleton] at hne ⊢
            obtain ⟨c, cs, hcs⟩ := List.exists_cons_of_ne_nil hne
            have hhead := head_writeLabel (hlabel first (by simp)) c (by simp [hcs])
            exact ⟨c, by simp [hcs], hhead⟩
        | cons second more => exact ⟨'.', by simp, by decide⟩

end Domain

/-! ### Numeric addresses -/

namespace IPv4

theorem dot_mem_toText (a : IPv4) : '.' ∈ a.toText.toList := by
  simp [toText, show toString "." = "." from rfl]

end IPv4

namespace IPv6

/-- Groups without those left out have a colon between any two. -/
theorem colon_mem_groupsText {groups : List UInt16} (h : 2 ≤ groups.length) :
    ':' ∈ (groupsText groups).toList := by
  match groups, h with
  | first :: second :: rest, _ => simp [groupsText]

theorem colon_mem_compressed {groups : List UInt16} (h : 2 ≤ groups.length) :
    ':' ∈ (compressed groups).toList := by
  simp only [compressed]
  split
  · exact colon_mem_groupsText h
  · simp

/-- The text of an address of version six: with dots behind a fixed beginning, or in groups. -/
theorem toText_cases (a : IPv6) :
    (∃ b : IPv4, a.toText = "::ffff:" ++ b.toText) ∨ a.toText = compressed a.groups := by
  unfold toText
  split
  · exact Or.inl ⟨_, rfl⟩
  · exact Or.inr rfl

theorem colon_mem_toText (a : IPv6) : ':' ∈ a.toText.toList := by
  rcases toText_cases a with ⟨b, htext⟩ | htext
  · simp [htext]
  · rw [htext]
    exact colon_mem_compressed (by simp [a.length_groups])

end IPv6

/-! ### Hosts -/

namespace Host

/-- A host in brackets and the host by itself are different texts: either the brackets make the
difference in length, or dots are written in one of them and the texts begin differently. -/
theorem sameWord_brackets (a : IPv6) :
    sameWord ("[" ++ IPv6.compressed a.groups ++ "]") a.toText = false := by
  rw [sameWord, sameIgnoringCase, beq_eq_false_iff_ne]
  intro heq
  rcases IPv6.toText_cases a with ⟨b, htext⟩ | htext
  · rw [htext] at heq
    simp [toLower] at heq
  · rw [htext] at heq
    have hlen := congrArg List.length heq
    simp [toLower] at hlen
    omega

/-- The text of a host in an address is the host by itself, in any case of the letters, except for
version six. -/
theorem sameWord_toText_bareText_iff (host : Host) :
    sameWord host.toText host.bareText = true ↔ ∀ a, host ≠ .v6 a := by
  cases host with
  | domain name => simp [toText, bareText, sameWord, sameIgnoringCase]
  | v4 a => simp [toText, bareText, sameWord, sameIgnoringCase]
  | v6 a => simp [toText, bareText, sameWord_brackets]

/-- An address in brackets is of version six. -/
theorem eq_v6_of_bracketed {inner : List Char} {host : Host} (h : bracketed inner = .ok host) :
    ∃ a, host = .v6 a := by
  unfold bracketed at h
  split at h
  · split at h
    · cases h
      exact ⟨_, rfl⟩
    · cases h
  · cases h

theorem isBlankString_v4 (a : IPv4) : isBlankString (bareText (.v4 a)) = false :=
  isBlankString_eq_false_iff.mpr ⟨'.', IPv4.dot_mem_toText a, by decide⟩

theorem isBlankString_v6 (a : IPv6) : isBlankString (bareText (.v6 a)) = false :=
  isBlankString_eq_false_iff.mpr ⟨':', IPv6.colon_mem_toText a, by decide⟩

/-- No host of a special scheme is blank. -/
theorem isBlankString_of_read {cs : List Char} {host : Host} (h : read cs = .ok host) :
    isBlankString host.bareText = false := by
  unfold read at h
  split at h
  · obtain ⟨a, rfl⟩ := eq_v6_of_bracketed h
    exact isBlankString_v6 a
  · split at h
    · cases h
    · next name hname =>
      split at h
      · cases h
      · next hne =>
        split at h
        · split at h
          · cases h
            exact isBlankString_v4 _
          · cases h
        · cases h
          have hchar := Domain.exists_not_blank_of_toAscii? hname (by simpa using hne)
          exact isBlankString_eq_false_iff.mpr (by simpa [bareText] using hchar)

/-- No host of another scheme is blank: what could be blank in it is not allowed there, or is
written with a percent sign. -/
theorem isBlankString_of_readOpaque {cs : List Char} {host : Host} (hne : cs ≠ [])
    (h : readOpaque cs = .ok host) : isBlankString host.bareText = false := by
  unfold readOpaque at h
  split at h
  · obtain ⟨a, rfl⟩ := eq_v6_of_bracketed h
    exact isBlankString_v6 a
  · split at h
    · cases h
    · next hforbidden =>
      cases h
      obtain ⟨c, rest, rfl⟩ := List.exists_cons_of_ne_nil hne
      rw [isBlankString_eq_false_iff]
      simp only [bareText, String.toList_ofList, Url.Percent.encode, List.flatMap_cons]
      by_cases hcontrol : Url.Percent.controls c = true
      · obtain ⟨b, bs, hbytes⟩ := List.exists_cons_of_ne_nil (Utf8.encodeChar_ne_nil c)
        exact ⟨'%', by simp [hcontrol, hbytes, Url.Percent.writeByte], by decide⟩
      · refine ⟨c, by simp [hcontrol], ?_⟩
        have hspace : c ≠ ' ' := by
          rintro rfl
          exact hforbidden (by simp [isForbidden])
        have hspace' : c.toNat ≠ 32 := fun heq => hspace (Char.toNat_inj.mp heq)
        simp only [Url.Percent.controls, Bool.or_eq_true, decide_eq_true_eq, not_or] at hcontrol
        simp only [isBlank, Bool.or_eq_false_iff, Bool.and_eq_false_iff, decide_eq_false_iff_not,
          beq_eq_false_iff_ne]
        omega

end Host

/-! ### Addresses -/

namespace Url

variable {u : Url} {host : Host}

@[simp] theorem authority_finish (special : Bool) (u : Url) (cs : List Char) :
    (finish special u cs).authority = u.authority := by
  unfold finish
  split
  · rfl
  · split <;> rfl
  · rfl

theorem isBlankString_of_readHost {kind : Kind} {text rest : List Char}
    (h : readHost kind text rest = .ok (some host)) : isBlankString host.bareText = false := by
  unfold readHost at h
  split at h
  · split at h <;> cases h
  · next hne =>
    split at h
    · cases hread : Host.read text with
      | ok found =>
          simp only [hread, Except.map, Except.ok.injEq, Option.some.injEq] at h
          exact h ▸ Host.isBlankString_of_read hread
      | error fault => simp [hread, Except.map] at h
    · cases hread : Host.readOpaque text with
      | ok found =>
          simp only [hread, Except.map, Except.ok.injEq, Option.some.injEq] at h
          exact h ▸ Host.isBlankString_of_readOpaque (by simpa using hne) hread
      | error fault => simp [hread, Except.map] at h

/-- The host of an authority is read from a part of its text. -/
theorem exists_readHost_of_readAuthority {scheme : String} {kind : Kind} {cs rest : List Char}
    {a : Authority} (h : readAuthority scheme kind cs = .ok (a, rest)) :
    ∃ text after, readHost kind text after = .ok a.host := by
  simp only [readAuthority, bind, Except.bind, pure, Except.pure, throw, throwThe,
    MonadExceptOf.throw] at h
  -- With a user in front of the host and without one the rest goes the same way.
  split at h
  all_goals
    split at h
    · cases h
    split at h
    · cases h
    next hread =>
    split at h
    · cases h
    split at h
    · split at h
      · cases h
      · cases h
        exact ⟨_, _, hread⟩
    · cases h
      exact ⟨_, _, hread⟩

theorem isBlankString_of_readWithAuthority {scheme : String} {kind : Kind} {cs : List Char}
    (h : readWithAuthority scheme kind cs = .ok u) (hhost : u.host? = some host) :
    isBlankString host.bareText = false := by
  obtain ⟨a, ha, hahost⟩ := Option.bind_eq_some_iff.mp hhost
  simp only [readWithAuthority, bind, Except.bind, pure, Except.pure] at h
  split at h
  · cases h
  · next parts hparts =>
    obtain ⟨found, rest⟩ := parts
    cases h
    simp only [authority_finish, Option.some.injEq] at ha
    subst ha
    obtain ⟨text, after, hread⟩ := exists_readHost_of_readAuthority hparts
    rw [hahost] at hread
    exact isBlankString_of_readHost hread

theorem isBlankString_of_readFileHost {text : List Char}
    (h : readFileHost text = .ok (some host)) : isBlankString host.bareText = false := by
  unfold readFileHost at h
  split at h
  · cases h
  · cases hread : Host.read text with
    | error fault => simp [hread, Except.map] at h
    | ok found =>
        simp only [hread, Except.map, Except.ok.injEq] at h
        split at h
        · cases h
        · cases h
          exact Host.isBlankString_of_read hread

theorem isBlankString_of_readFile {cs : List Char} (h : readFile cs = .ok u)
    (hhost : u.host? = some host) : isBlankString host.bareText = false := by
  -- A drive in the path takes the place of the host, and nothing else does.
  have hkept : ∀ {b : Bool} {found : Option Host} {path : UrlPath} {rest : List Char},
      (finish true ⟨"file", some { host := if b then none else found }, path, none, none⟩
        rest).host? = some host → found = some host := by
    intro b found path rest heq
    simp only [host?, authority_finish, Option.bind_some] at heq
    split at heq
    · cases heq
    · exact heq
  simp only [readFile, bind, Except.bind, pure, Except.pure] at h
  split at h
  · split at h
    · split at h
      · cases h
        cases hkept hhost
      · split at h
        · cases h
        · next hfound =>
          cases h
          rw [hkept hhost] at hfound
          exact isBlankString_of_readFileHost hfound
    · cases h
      cases hkept hhost
  · cases h
    cases hkept hhost

/-- No host that an address names is blank. -/
theorem isBlankString_of_ofText {s : String} (h : ofText s = .ok u) (hhost : u.host? = some host) :
    isBlankString host.bareText = false := by
  unfold ofText at h
  split at h
  · cases h
  · next scheme rest _ =>
    cases hkind : kindOf scheme with
    | special =>
        rw [hkind] at h
        exact isBlankString_of_readWithAuthority h hhost
    | file =>
        rw [hkind] at h
        exact isBlankString_of_readFile h hhost
    | other =>
        rw [hkind] at h
        simp only at h
        split at h
        · exact isBlankString_of_readWithAuthority h hhost
        · cases h
          simp [readPlain, host?] at hhost

end Url

/-- The host of a request for an address is the one that the address names, and is not blank. -/
theorem Request.host_of_ofUrl {url : String} {request : Request} (h : ofUrl url = .ok request) :
    ∃ u host, Url.ofText url = .ok u ∧ u.host? = some host ∧ request.host = host.bareText ∧
      isBlankString request.host = false := by
  unfold ofUrl at h
  split at h
  · cases h
  · next u hu =>
    split at h
    · next host hhost =>
      cases h
      exact ⟨u, host, hu, hhost, rfl, Url.isBlankString_of_ofText hu hhost⟩
    · cases h

end AutoProxy
