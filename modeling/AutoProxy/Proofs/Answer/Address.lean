import AutoProxy.Address
import AutoProxy.Proofs.Answer.Grammar

/-!
What becomes of each part of an address. An address gives a port (`WithPort`), or it is a host by itself
(`Portless`), or something else than a port stands behind its closing bracket (`HasStray`); there is no
fourth way (`written_or_hasStray`). In the first two cases reading accounts for all of it: a text that is
given for the port is read as the port or the segment is rejected, and the default port is taken only where
everything but the brackets is the host (`readSegment_accounts`).

Everything, whatever it is. Without brackets several colons belong to the host, also if it is no address of
version six (`readSegment_colons`), and so does an opening bracket that is never closed.
-/

namespace AutoProxy.Answer

open Text

variable {address host port inner after : List Char}

/-! ### Ways to write an address -/

/-- The ways to write a host and the text of a port, with a colon between them. -/
inductive WithPort : List Char → List Char → List Char → Prop where
  | plain {front back : List Char} (hopen : front.head? ≠ some '[') (hfront : ':' ∉ front)
      (hback : ':' ∉ back) : WithPort (trim front) (trim back) (front ++ ':' :: back)
  | bracketed {inner between back : List Char} (hclose : ']' ∉ inner)
      (hblank : ∀ c ∈ between, isBlank c = true) :
      WithPort (trim inner) (trim back) ('[' :: (inner ++ ']' :: (between ++ ':' :: back)))

/-- The ways to write a host by itself. -/
inductive Portless : List Char → List Char → Prop where
  | plain {host : List Char} (hopen : host.head? ≠ some '[') (hcolon : ':' ∉ host) : Portless host host
  | colons {host : List Char} (hopen : host.head? ≠ some '[') (hcolons : 2 ≤ host.count ':') :
      Portless host host
  | unclosed {inner : List Char} (hclose : ']' ∉ inner) : Portless ('[' :: inner) ('[' :: inner)
  | bracketed {inner after : List Char} (hclose : ']' ∉ inner) (hblank : ∀ c ∈ after, isBlank c = true) :
      Portless (trim inner) ('[' :: (inner ++ ']' :: after))

/-- Behind the closing bracket stands something that is not blank and does not begin with a colon. -/
inductive HasStray : List Char → Prop where
  | intro {inner after rest : List Char} {c : Char} (hclose : ']' ∉ inner)
      (hafter : trimStart after = c :: rest) (hc : c ≠ ':') : HasStray ('[' :: (inner ++ ']' :: after))

theorem HasStray.mem (h : HasStray address) : ']' ∈ address := by
  cases h
  simp

/-- Behind a closing bracket stands nothing, or a colon, or something else. -/
theorem written_of_closed (hclose : ']' ∉ inner) :
    (∃ host port, WithPort host port ('[' :: (inner ++ ']' :: after))) ∨
      (∃ host, Portless host ('[' :: (inner ++ ']' :: after))) ∨
        HasStray ('[' :: (inner ++ ']' :: after)) := by
  cases hstart : trimStart after with
  | nil => exact .inr (.inl ⟨_, .bracketed hclose (List.dropWhile_eq_nil_iff.mp hstart)⟩)
  | cons c back =>
      by_cases hc : c = ':'
      · subst hc
        have hblank : ∀ c ∈ after.takeWhile isBlank, isBlank c = true :=
          fun c hmem => List.mem_takeWhile_imp hmem
        have hafter : after = after.takeWhile isBlank ++ ':' :: back := by
          rw [← hstart, trimStart, List.takeWhile_append_dropWhile]
        rw [hafter]
        exact .inl ⟨_, _, .bracketed hclose hblank⟩
      · exact .inr (.inr (.intro hclose hstart hc))

/-- An address gives a port or is a host by itself, unless something else stands behind its bracket. -/
theorem written_or_hasStray (address : List Char) :
    (∃ host port, WithPort host port address) ∨ (∃ host, Portless host address) ∨ HasStray address := by
  by_cases hopen : address.head? = some '['
  · obtain ⟨inside, rfl⟩ := List.head?_eq_some_iff.mp hopen
    by_cases hmem : ']' ∈ inside
    · obtain ⟨inner, after, rfl, hclose⟩ := List.eq_append_cons_of_mem hmem
      exact written_of_closed hclose
    · exact .inr (.inl ⟨_, .unclosed hmem⟩)
  by_cases hcolons : 2 ≤ address.count ':'
  · exact .inr (.inl ⟨_, .colons hopen hcolons⟩)
  by_cases hcolon : ':' ∈ address
  · obtain ⟨front, back, rfl, hfront⟩ := List.eq_append_cons_of_mem hcolon
    have hback : ':' ∉ back := by
      rw [List.count_append, List.count_cons_self] at hcolons
      rw [← List.count_eq_zero]
      omega
    have hhead : front.head? ≠ some '[' := by
      cases front with
      | nil => simp
      | cons x xs => simpa using hopen
    exact .inl ⟨_, _, .plain hhead hfront hback⟩
  · exact .inr (.inl ⟨_, .plain hopen hcolon⟩)

/-! ### Cutting off the port -/

theorem cutPort_of_head_ne (h : address.head? ≠ some '[') :
    cutPort address =
      if 1 < address.count ':' then (address, none)
      else
        match cutLast (· = ':') address with
        | some (host, port) => (trim host, some (trim port))
        | none => (address, none) := by
  unfold cutPort
  split
  · next inside => simp at h
  · rfl

theorem cut_bracket (hclose : ']' ∉ inner) : cut (· = ']') (inner ++ ']' :: after) = some (inner, after) :=
  cut_append_cons after (forall_ne_of_not_mem hclose) (by simp)

/-- The text of the port is cut off where one is given. -/
theorem cutPort_of_withPort (h : WithPort host port address) : cutPort address = (host, some port) := by
  cases h with
  | @plain front back hopen hfront hback =>
      have hhead : (front ++ ':' :: back).head? ≠ some '[' := by
        cases front with
        | nil => simp
        | cons x xs => simpa using hopen
      have hcount : (front ++ ':' :: back).count ':' = 1 := by
        simp [List.count_eq_zero.mpr hfront, List.count_eq_zero.mpr hback]
      have hcut : cutLast (· = ':') (front ++ ':' :: back) = some (front, back) :=
        cutLast_append_cons front (by simp) (forall_ne_of_not_mem hback)
      rw [cutPort_of_head_ne hhead, hcount, if_neg (by decide), hcut]
  | @bracketed inner between back hclose hblank =>
      have hstart : trimStart (between ++ ':' :: back) = ':' :: back := by
        rw [trimStart, List.dropWhile_append_of_pos hblank]
        rfl
      simp only [cutPort, cut_bracket hclose, hstart]

/-- No text is cut off from a host by itself. -/
theorem cutPort_of_portless (h : Portless host address) : cutPort address = (host, none) := by
  cases h with
  | plain hopen hcolon =>
      have hcut : cutLast (· = ':') address = none :=
        cutLast_eq_none_iff.mpr (forall_ne_of_not_mem hcolon)
      rw [cutPort_of_head_ne hopen, List.count_eq_zero.mpr hcolon, if_neg (by decide), hcut]
  | colons hopen hcolons =>
      have hmany : 1 < address.count ':' := hcolons
      rw [cutPort_of_head_ne hopen, if_pos hmany]
  | @unclosed inner hclose =>
      have hcut : cut (· = ']') inner = none := cut_eq_none_iff.mpr (forall_ne_of_not_mem hclose)
      simp only [cutPort, hcut]
  | @bracketed inner after hclose hblank =>
      have hstart : trimStart after = [] := List.dropWhile_eq_nil_iff.mpr hblank
      simp only [cutPort, cut_bracket hclose, hstart]

theorem cutPort_eq_some_iff (h : ¬ HasStray address) :
    cutPort address = (host, some port) ↔ WithPort host port address := by
  refine ⟨fun hcut => ?_, cutPort_of_withPort⟩
  rcases written_or_hasStray address with ⟨host', port', hport⟩ | ⟨host', hhost⟩ | hstray
  · rw [cutPort_of_withPort hport] at hcut
    cases hcut
    exact hport
  · rw [cutPort_of_portless hhost] at hcut
    cases hcut
  · exact absurd hstray h

theorem cutPort_eq_none_iff (h : ¬ HasStray address) :
    cutPort address = (host, none) ↔ Portless host address := by
  refine ⟨fun hcut => ?_, cutPort_of_portless⟩
  rcases written_or_hasStray address with ⟨host', port', hport⟩ | ⟨host', hhost⟩ | hstray
  · rw [cutPort_of_withPort hport] at hcut
    cases hcut
  · rw [cutPort_of_portless hhost] at hcut
    cases hcut
    exact hhost
  · exact absurd hstray h

/-! ### Proxies -/

/-- A proxy is read from an address that is written with its host, and either with a text that denotes its
port, or without one if its port is the default. -/
theorem readEndpoint_eq_ok_iff_written {e : Endpoint} {byDefault : UInt16} (h : ¬ HasStray address) :
    readEndpoint address byDefault = .ok e ↔
      e.host ≠ "" ∧
        ((∃ text, WithPort e.host.toList text address ∧
            1 ≤ e.port.toNat ∧ Number.Denotes text e.port.toNat) ∨
          Portless e.host.toList address ∧ e.port = byDefault) := by
  have hfound (found : List Char) (rest : Prop) :
      found ≠ [] ∧ e.host = String.ofList found ∧ rest ↔ e.host ≠ "" ∧ found = e.host.toList ∧ rest := by
    constructor
    · rintro ⟨hne, hhost, hrest⟩
      obtain rfl : found = e.host.toList := by rw [hhost, String.toList_ofList]
      exact ⟨fun hempty => hne (String.toList_eq_nil_iff.mpr hempty), rfl, hrest⟩
    · rintro ⟨hne, rfl, hrest⟩
      exact ⟨fun hempty => hne (String.toList_eq_nil_iff.mp hempty), String.ofList_toList.symm, hrest⟩
  rw [readEndpoint_eq_ok_iff, hfound]
  refine and_congr_right fun _ => ?_
  simp only [← cutPort_eq_some_iff h, ← cutPort_eq_none_iff h, ← port?_eq_some_iff]
  obtain ⟨found, text⟩ := cutPort address
  cases text with
  | none => simp
  | some text =>
      constructor
      · rintro ⟨rfl, hport⟩
        exact .inl ⟨text, rfl, hport⟩
      · rintro (⟨text', hcut, hport⟩ | ⟨hcut, -⟩)
        · cases hcut
          exact ⟨rfl, hport⟩
        · cases hcut

/-! ### Segments -/

/-- Reading a segment accounts for its address. If it names a proxy, then either the text of a port is given
and denotes the port, or no port is given, the address is the host by itself, and the port is the default of
the keyword. If it means the direct way, its first word is no keyword or nothing follows it. In all other
cases it is rejected. -/
theorem readSegment_accounts {segment : List Char} (h : ¬ HasStray (cutWord segment).2) :
    (∀ p e, readSegment segment = .ok (.proxy p e) ↔
      p.IsKeyword (cutWord segment).1 ∧ e.host ≠ "" ∧
        ((∃ text, WithPort e.host.toList text (cutWord segment).2 ∧
            1 ≤ e.port.toNat ∧ Number.Denotes text e.port.toNat) ∨
          Portless e.host.toList (cutWord segment).2 ∧ e.port = p.defaultPort)) ∧
      (readSegment segment = .ok .direct ↔
        (∀ p : Protocol, ¬ p.IsKeyword (cutWord segment).1) ∨ (cutWord segment).2 = []) := by
  refine ⟨fun p e => ?_, readSegment_eq_direct_iff⟩
  rw [readSegment_eq_proxy_iff, readEndpoint_eq_ok_iff_written h]

/-- A bracket that is never closed belongs to the host, and so do the colons behind it. -/
theorem readSegment_accounts_unclosed :
    ¬ HasStray (cutWord "https [fe80::1 :8080".toList).2 ∧
      readSegment "https [fe80::1 :8080".toList = .ok (.proxy .https ⟨"[fe80::1 :8080", 443⟩) := by
  have haddress : (cutWord "https [fe80::1 :8080".toList).2 = "[fe80::1 :8080".toList := by decide
  have hstray : ¬ HasStray (cutWord "https [fe80::1 :8080".toList).2 := fun h => absurd h.mem (by decide)
  have hhost : Portless "[fe80::1 :8080".toList (cutWord "https [fe80::1 :8080".toList).2 := by
    rw [haddress]
    exact .unclosed (by decide)
  exact ⟨hstray, ((readSegment_accounts hstray).1 .https ⟨"[fe80::1 :8080", 443⟩).mpr
    ⟨⟨"HTTPS", .tail _ (.tail _ (.head _)), by decide⟩, by decide, .inr ⟨hhost, rfl⟩⟩⟩

/-- Several colons without brackets all belong to the host, which is no address of version six. -/
theorem readSegment_colons :
    readSegment "PROXY a.example:80:8080".toList =
        .ok (.proxy .http ⟨"a.example:80:8080", Protocol.http.defaultPort⟩) ∧
      (cutWord "PROXY a.example:80:8080".toList).2 = "a.example:80:8080".toList ∧
      IPv6.ofChars? "a.example:80:8080".toList = none := by decide

end AutoProxy.Answer
