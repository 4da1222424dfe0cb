import AutoProxy.Proofs.Answer.Account
import AutoProxy.Proofs.Answer.Address
import AutoProxy.Selection

/-!
The notation of answers, written and read again. A candidate is legible when reading its text gives
it back. Which candidates are legible depends on the characters of the host and on the port alone
(`Endpoint.IsLegible`), and a list is read back from its text exactly if every candidate of it is
legible (`ofText_toText_iff`).

Reading can find a host that is not legible: one that begins with a bracket which is never closed,
or one with several colons and a closing bracket. These are all that there are
(`ofText_toText_ofText_iff`).
-/

namespace AutoProxy

open Text

/-- The endpoints that are read back from their text. -/
structure Endpoint.IsLegible (e : Endpoint) : Prop where
  port : 1 ≤ e.port.toNat ∧ e.port.toNat ≤ 65535
  nonempty : e.host ≠ ""
  trimmed : IsTrimmed e.host.toList
  noSemicolon : ';' ∉ e.host.toList
  /-- A host in brackets ends at the first closing one. -/
  closing : ':' ∈ e.host.toList → ']' ∉ e.host.toList
  /-- A host that stands by itself does not begin like one in brackets. -/
  opening : ':' ∉ e.host.toList → e.host.toList.head? ≠ some '['

/-- The candidates that are read back from their text. -/
def Candidate.IsLegible (c : Candidate) : Prop := ∀ e, c.endpoint? = some e → e.IsLegible

namespace Answer

/-! ### Endpoints -/

section Endpoints

variable {e : Endpoint}

/-- The text of an endpoint, character by character. -/
theorem toList_endpoint_toText (e : Endpoint) :
    e.toText.toList =
      if ':' ∈ e.host.toList then
        '[' :: (e.host.toList ++ ']' :: ':' :: Nat.toDigits 10 e.port.toNat)
      else e.host.toList ++ ':' :: Nat.toDigits 10 e.port.toNat := by
  by_cases h : ':' ∈ e.host.toList
  · simp [Endpoint.toText, h]
  · simp [Endpoint.toText, h]

theorem isDigit_of_mem_port {port : UInt16} {c : Char} (h : c ∈ Nat.toDigits 10 port.toNat) :
    c.isDigit = true :=
  Nat.isDigit_of_mem_toDigits (by decide) (by decide) h

theorem not_mem_port {port : UInt16} {c : Char} (h : c.isDigit = false) :
    c ∉ Nat.toDigits 10 port.toNat := by
  intro hmem
  rw [isDigit_of_mem_port hmem] at h
  exact Bool.noConfusion h

/-- The digits of a port are trimmed. -/
theorem isTrimmed_port (port : UInt16) : IsTrimmed (Nat.toDigits 10 port.toNat) where
  head := fun _ hc => Number.isBlank_of_isDigit (isDigit_of_mem_port (List.mem_of_mem_head? hc))
  last := fun _ hc => Number.isBlank_of_isDigit (isDigit_of_mem_port (List.mem_of_getLast? hc))

/-- The digits of a port are read as that port, unless it is zero. -/
theorem port?_toDigits (port : UInt16) :
    port? (Nat.toDigits 10 port.toNat) = some port ↔ port ≠ 0 := by
  rw [port?_eq_some_iff, and_iff_left (Number.denotes_toDigits port.toNat), ne_eq, ← UInt16.toNat_inj]
  exact Nat.one_le_iff_ne_zero

/-- Where an address has been cut before the digits of the port, the endpoint is read back if its
port is not zero and its host is neither empty nor trimmed any further. -/
theorem readEndpoint_eq_ok_of_cutPort {address : List Char} {port : UInt16}
    (hcut : cutPort address = (trim e.host.toList, some (Nat.toDigits 10 e.port.toNat))) :
    readEndpoint address port = .ok e ↔
      e.port ≠ 0 ∧ e.host ≠ "" ∧ IsTrimmed e.host.toList := by
  have hhost : e.host = String.ofList (trim e.host.toList) ↔ IsTrimmed e.host.toList := by
    rw [← trim_eq_self_iff, ← String.toList_inj, String.toList_ofList]
    exact eq_comm
  rw [readEndpoint_eq_ok_iff, hcut]
  simp only [port?_toDigits, hhost]
  constructor
  · rintro ⟨hne, htrimmed, hport⟩
    rw [trim_eq_self_iff.mpr htrimmed] at hne
    exact ⟨hport, fun h => hne (by simp [h]), htrimmed⟩
  · rintro ⟨hport, hne, htrimmed⟩
    rw [trim_eq_self_iff.mpr htrimmed]
    exact ⟨fun h => hne (String.toList_eq_nil_iff.mp h), htrimmed, hport⟩

/-- An endpoint is not read from an address in which another host is found. -/
theorem readEndpoint_ne_ok_of_cutPort {address : List Char} {port : UInt16}
    (hcut : (cutPort address).1 ≠ e.host.toList) : readEndpoint address port ≠ .ok e := by
  intro h
  obtain ⟨-, hhost, -⟩ := readEndpoint_eq_ok_iff.mp h
  exact hcut (by rw [hhost, String.toList_ofList])

/-- A text is longer than what is left of a part of it that ends before its last character. -/
theorem trim_ne_append_cons (front back : List Char) (c : Char) : trim front ≠ front ++ c :: back := by
  intro h
  have hlen := (trim_within front).length_le
  simp only [h, List.length_append, List.length_cons] at hlen
  omega

/-- A host with a colon is written in brackets, and is read back if no bracket closes inside. -/
theorem readEndpoint_toText_of_colon (port : UInt16) (h : ':' ∈ e.host.toList) :
    readEndpoint (trim e.toText.toList) port = .ok e ↔
      e.port ≠ 0 ∧ e.host ≠ "" ∧ IsTrimmed e.host.toList ∧ ']' ∉ e.host.toList := by
  have htext : trim e.toText.toList =
      '[' :: (e.host.toList ++ ']' :: ':' :: Nat.toDigits 10 e.port.toNat) := by
    rw [toList_endpoint_toText, if_pos h]
    have hcolon := trim_append_cons ('[' :: (e.host.toList ++ [']']))
      (Nat.toDigits 10 e.port.toNat) (show isBlank ':' = false by decide)
    rw [trimStart_cons_of_not_blank (by decide),
      trimEnd_eq_self_iff.mpr (isTrimmed_port e.port).last] at hcolon
    simpa using hcolon
  rw [htext]
  cases hclose : cut (· = ']') e.host.toList with
  | none =>
      have hnot : ']' ∉ e.host.toList := by
        intro hmem
        simpa using cut_eq_none_iff.mp hclose ']' hmem
      have hcut : cutPort ('[' :: (e.host.toList ++ ']' :: ':' :: Nat.toDigits 10 e.port.toNat)) =
          (trim e.host.toList, some (Nat.toDigits 10 e.port.toNat)) := by
        have hbracketed := cutPort_of_withPort
          (@WithPort.bracketed e.host.toList [] (Nat.toDigits 10 e.port.toNat) hnot (by simp))
        rwa [trim_eq_self_iff.mpr (isTrimmed_port e.port)] at hbracketed
      rw [readEndpoint_eq_ok_of_cutPort hcut]
      simp [hnot]
  | some parts =>
      obtain ⟨front, back⟩ := parts
      obtain ⟨d, hd, hhost, hfront⟩ := cut_eq_some_iff.mp hclose
      have hmem : ']' ∈ e.host.toList := by
        rw [hhost]
        simp_all
      -- The host that is found ends at the first closing bracket, before the end of this one.
      have hcut : (cutPort ('[' :: (e.host.toList ++ ']' :: ':' :: Nat.toDigits 10 e.port.toNat))).1
          = trim front := by
        have hfirst := cut_append_cons (back ++ ']' :: ':' :: Nat.toDigits 10 e.port.toNat)
          hfront hd
        simp only [hhost, cutPort, List.append_assoc, List.cons_append, hfirst]
        split <;> rfl
      have hne : trim front ≠ e.host.toList := by
        rw [hhost]
        exact trim_ne_append_cons front back d
      rw [← hcut] at hne
      exact ⟨fun hok => absurd hok (readEndpoint_ne_ok_of_cutPort hne),
        fun hall => absurd hmem hall.2.2.2⟩

/-- After a bracket another host is found than the text up to the colon: if nothing closes the
bracket the colon belongs to the host, and otherwise the bracket does not. -/
theorem cutPort_ne_of_bracket {host inner : List Char} (port : UInt16) (h : ':' ∉ host)
    (hinner : trimStart host = '[' :: inner) :
    (cutPort ('[' :: inner ++ ':' :: Nat.toDigits 10 port.toNat)).1 ≠ host := by
  intro heq
  cases hclose : cut (· = ']') inner with
  | none =>
      have hcut : cut (· = ']') (inner ++ ':' :: Nat.toDigits 10 port.toNat) = none := by
        rw [cut_eq_none_iff] at hclose ⊢
        intro c hc
        rcases List.mem_append.mp hc with hc | hc
        · exact hclose c hc
        · rcases List.mem_cons.mp hc with rfl | hc
          · decide
          · have hdigit := isDigit_of_mem_port hc
            simp only [decide_eq_false_iff_not]
            rintro rfl
            exact absurd hdigit (by decide)
      simp only [List.cons_append, cutPort, hcut] at heq
      exact h (by rw [← heq]; simp)
  | some parts =>
      obtain ⟨front, back⟩ := parts
      obtain ⟨d, hd, rfl, hfront⟩ := cut_eq_some_iff.mp hclose
      have hfirst := cut_append_cons (back ++ ':' :: Nat.toDigits 10 port.toNat) hfront hd
      have hcut : (cutPort ('[' :: (front ++ d :: back) ++
          ':' :: Nat.toDigits 10 port.toNat)).1 = trim front := by
        simp only [List.cons_append, List.append_assoc, cutPort, hfirst]
        split <;> rfl
      have hshort := (trim_within front).length_le
      rw [← hcut, heq] at hshort
      have hlong : ('[' :: (front ++ d :: back)).length ≤ host.length := by
        rw [← hinner]
        exact (List.dropWhile_suffix isBlank).length_le
      simp only [List.length_cons, List.length_append] at hlong
      omega

/-- Without brackets one colon separates host and port. -/
theorem cutPort_append_port {front : List Char} (port : UInt16) (hcolon : ':' ∉ front)
    (hbracket : front.head? ≠ some '[') :
    cutPort (front ++ ':' :: Nat.toDigits 10 port.toNat) =
      (trim front, some (Nat.toDigits 10 port.toNat)) := by
  have hport : ':' ∉ Nat.toDigits 10 port.toNat := not_mem_port (by decide)
  have hcut := cutPort_of_withPort (.plain hbracket hcolon hport)
  rwa [trim_eq_self_iff.mpr (isTrimmed_port port)] at hcut

/-- A host without a colon is written as it is, and is read back if it does not begin like one in
brackets. -/
theorem readEndpoint_toText_of_no_colon (port : UInt16) (h : ':' ∉ e.host.toList) :
    readEndpoint (trim e.toText.toList) port = .ok e ↔
      e.port ≠ 0 ∧ e.host ≠ "" ∧ IsTrimmed e.host.toList ∧ e.host.toList.head? ≠ some '[' := by
  have htext : trim e.toText.toList =
      trimStart e.host.toList ++ ':' :: Nat.toDigits 10 e.port.toNat := by
    rw [toList_endpoint_toText, if_neg h, trim_append_cons _ _ (by decide),
      trimEnd_eq_self_iff.mpr (isTrimmed_port e.port).last]
  rw [htext]
  by_cases hstart : (trimStart e.host.toList).head? = some '['
  · obtain ⟨inner, hinner⟩ := List.head?_eq_some_iff.mp hstart
    have hne := cutPort_ne_of_bracket e.port h hinner
    rw [← hinner] at hne
    refine ⟨fun hok => absurd hok (readEndpoint_ne_ok_of_cutPort hne), ?_⟩
    rintro ⟨-, -, htrimmed, hhead⟩
    rw [trimStart_eq_self_iff.mpr htrimmed.head] at hstart
    exact absurd hstart hhead
  · have hcolon : ':' ∉ trimStart e.host.toList :=
      fun hmem => h ((List.dropWhile_suffix isBlank).subset hmem)
    have hcut := cutPort_append_port e.port hcolon hstart
    rw [show trim (trimStart e.host.toList) = trim e.host.toList by
      simp only [trim, trimStart, List.dropWhile_idempotent isBlank]] at hcut
    rw [readEndpoint_eq_ok_of_cutPort hcut]
    constructor
    · rintro ⟨hport, hne, htrimmed⟩
      rw [trimStart_eq_self_iff.mpr htrimmed.head] at hstart
      exact ⟨hport, hne, htrimmed, hstart⟩
    · rintro ⟨hport, hne, htrimmed, -⟩
      exact ⟨hport, hne, htrimmed⟩

/-- An endpoint without a semicolon is read back from its text exactly if it is legible. -/
theorem readEndpoint_toText_iff (port : UInt16) (h : ';' ∉ e.host.toList) :
    readEndpoint (trim e.toText.toList) port = .ok e ↔ e.IsLegible := by
  have hport : e.port ≠ 0 ↔ 1 ≤ e.port.toNat ∧ e.port.toNat ≤ 65535 := by
    have hbound := e.port.toNat_lt
    rw [ne_eq, ← UInt16.toNat_inj]
    simp only [UInt16.toNat_zero]
    omega
  by_cases hcolon : ':' ∈ e.host.toList
  · rw [readEndpoint_toText_of_colon port hcolon, hport]
    constructor
    · rintro ⟨hrange, hne, htrimmed, hclosing⟩
      exact ⟨hrange, hne, htrimmed, h, fun _ => hclosing, fun hno => absurd hcolon hno⟩
    · intro he
      exact ⟨he.port, he.nonempty, he.trimmed, he.closing hcolon⟩
  · rw [readEndpoint_toText_of_no_colon port hcolon, hport]
    constructor
    · rintro ⟨hrange, hne, htrimmed, hopening⟩
      exact ⟨hrange, hne, htrimmed, h, fun hyes => absurd hyes hcolon, fun _ => hopening⟩
    · intro he
      exact ⟨he.port, he.nonempty, he.trimmed, he.opening hcolon⟩

end Endpoints

/-! ### Candidates -/

/-- The text of a proxy: its keyword, a blank, and its endpoint. -/
theorem toList_proxy_toText (p : Protocol) (e : Endpoint) :
    (Candidate.proxy p e).toText.toList = p.keyword.toList ++ ' ' :: e.toText.toList := by
  simp [Candidate.toText]

/-- A segment of a keyword and an address gives the proxy at the address. -/
theorem readSegment_keyword (p : Protocol) {address : List Char} (h : trim address ≠ []) :
    readSegment (p.keyword.toList ++ ' ' :: address) =
      (readEndpoint (trim address) p.defaultPort).map (.proxy p) := by
  have hkeyword : p.IsKeyword p.keyword.toList :=
    ⟨p.keyword, by cases p <;> decide, by cases p <;> decide⟩
  have hblank : ∀ c ∈ [' '], isBlank c = true := by simp [isBlank]
  simpa using readSegment_append hkeyword (List.cons_ne_nil ' ' []) hblank h

/-- The text of an endpoint ends in a colon and the digits of the port. -/
theorem exists_endpoint_toText (e : Endpoint) :
    ∃ front, e.toText.toList = front ++ ':' :: Nat.toDigits 10 e.port.toNat := by
  rw [toList_endpoint_toText]
  split
  · exact ⟨'[' :: (e.host.toList ++ [']']), by simp⟩
  · exact ⟨e.host.toList, rfl⟩

theorem head_of_mem_keyword {p : Protocol} {rest : List Char} {c : Char}
    (h : c ∈ (p.keyword.toList ++ rest).head?) : isBlank c = false ∧ c ≠ ';' := by
  cases p <;> (cases h; decide)

/-- The text of a candidate is trimmed. -/
theorem isTrimmed_toText (c : Candidate) : IsTrimmed c.toText.toList := by
  cases c with
  | direct => decide
  | proxy p e =>
      obtain ⟨front, hfront⟩ := exists_endpoint_toText e
      rw [toList_proxy_toText, hfront]
      refine ⟨fun c hc => (head_of_mem_keyword hc).1, trimEnd_eq_self_iff.mp ?_⟩
      have hend := trimEnd_append_cons (p.keyword.toList ++ ' ' :: front)
        (Nat.toDigits 10 e.port.toNat) (show isBlank ':' = false by decide)
      rw [trimEnd_eq_self_iff.mpr (isTrimmed_port e.port).last] at hend
      simpa using hend

/-- The text of a candidate without a semicolon in its host is one segment. -/
theorem segments_toText {c : Candidate} (h : ∀ e ∈ c.endpoint?, ';' ∉ e.host.toList) :
    segments c.toText.toList = [c.toText.toList] := by
  have hnot : ';' ∉ c.toText.toList := by
    cases c with
    | direct => decide
    | proxy p e =>
        have hhost : ';' ∉ e.host.toList := h e rfl
        have hport : ';' ∉ Nat.toDigits 10 e.port.toNat := not_mem_port (by decide)
        have hword : ';' ∉ p.keyword.toList := by cases p <;> decide
        rw [toList_proxy_toText, toList_endpoint_toText]
        split <;> simp [hhost, hport, hword]
  have htrim : trim c.toText.toList = c.toText.toList := trim_eq_self_iff.mpr (isTrimmed_toText c)
  have hne : c.toText.toList ≠ [] := by
    cases c with
    | direct => decide
    | proxy p e => simp [toList_proxy_toText]
  rw [segments_of_not_mem hnot, htrim, if_neg hne]

/-- A semicolon in the host breaks the text of a proxy into more than one segment. -/
theorem length_segments_of_semicolon {p : Protocol} {e : Endpoint} (h : ';' ∈ e.host.toList) :
    2 ≤ (segments (Candidate.proxy p e).toText.toList).length := by
  obtain ⟨front, back, htext, hcolon⟩ :
      ∃ front back, e.toText.toList = front ++ ';' :: back ∧ ':' ∈ back := by
    obtain ⟨before, after, hhost⟩ := List.append_of_mem h
    rw [toList_endpoint_toText]
    split
    · exact ⟨'[' :: before, after ++ ']' :: ':' :: Nat.toDigits 10 e.port.toNat,
        by simp [hhost], by simp⟩
    · exact ⟨before, after ++ ':' :: Nat.toDigits 10 e.port.toNat, by simp [hhost], by simp⟩
  have hsplit : (Candidate.proxy p e).toText.toList =
      (p.keyword.toList ++ ' ' :: front) ++ ';' :: back := by
    rw [toList_proxy_toText, htext]
    simp
  obtain ⟨x, hx⟩ : ∃ x, x ∈ (p.keyword.toList ++ ' ' :: front).head? := by
    cases p <;> exact ⟨_, rfl⟩
  have hbefore := segments_ne_nil (List.mem_of_mem_head? hx) (head_of_mem_keyword hx).1
    (head_of_mem_keyword hx).2
  have hafter := segments_ne_nil hcolon (by decide) (by decide)
  rw [hsplit, segments_append_cons, List.length_append]
  have hposBefore := List.length_pos_iff.mpr hbefore
  have hposAfter := List.length_pos_iff.mpr hafter
  omega

/-- The text of a candidate has a segment. -/
theorem length_segments_pos (c : Candidate) : 1 ≤ (segments c.toText.toList).length := by
  by_cases h : ∀ e ∈ c.endpoint?, ';' ∉ e.host.toList
  · rw [segments_toText h]
    simp
  · cases c with
    | direct => simp [Candidate.endpoint?] at h
    | proxy p e =>
        have hmem : ';' ∈ e.host.toList := by simpa [Candidate.endpoint?] using h
        exact (by decide : 1 ≤ 2).trans (length_segments_of_semicolon hmem)

/-- A candidate is read back from the only segment of its text exactly if it is legible. -/
theorem readSegment_toText_iff (c : Candidate) :
    (∃ s, segments c.toText.toList = [s] ∧ readSegment s = .ok c) ↔ c.IsLegible := by
  cases c with
  | direct =>
      have hdirect : ∃ s, segments Candidate.direct.toText.toList = [s] ∧
          readSegment s = .ok .direct :=
        ⟨_, segments_toText (by simp [Candidate.endpoint?]), by decide⟩
      simp [hdirect, Candidate.IsLegible, Candidate.endpoint?]
  | proxy p e =>
      have hlegible : (Candidate.proxy p e).IsLegible ↔ e.IsLegible := by
        simp [Candidate.IsLegible, Candidate.endpoint?]
      rw [hlegible]
      by_cases h : ';' ∈ e.host.toList
      · constructor
        · rintro ⟨s, hs, -⟩
          have hlen := length_segments_of_semicolon (p := p) h
          simp [hs] at hlen
        · intro he
          exact absurd h he.noSemicolon
      · have hsegment := segments_toText (c := .proxy p e) (by simpa [Candidate.endpoint?] using h)
        have hne : trim e.toText.toList ≠ [] := by
          obtain ⟨front, hfront⟩ := exists_endpoint_toText e
          rw [hfront, trim_append_cons _ _ (by decide)]
          simp
        rw [hsegment, ← readEndpoint_toText_iff p.defaultPort h]
        simp only [List.cons.injEq, and_true, exists_eq_left', toList_proxy_toText,
          readSegment_keyword p hne]
        cases readEndpoint (trim e.toText.toList) p.defaultPort with
        | ok found => simp [Except.map]
        | error fault => simp [Except.map]

/-! ### Lists -/

theorem toList_listText_cons_cons (c d : Candidate) (rest : List Candidate) :
    (Candidate.listText (c :: d :: rest)).toList =
      c.toText.toList ++ ';' :: ' ' :: (Candidate.listText (d :: rest)).toList := by
  simp [Candidate.listText, String.toList_intercalate]

/-- The segments of the text of a list are those of its candidates, in order. -/
theorem segments_listText (cs : List Candidate) :
    segments (Candidate.listText cs).toList = cs.flatMap fun c => segments c.toText.toList := by
  induction cs with
  | nil => decide
  | cons c rest ih =>
      cases rest with
      | nil => simp [Candidate.listText]
      | cons d more =>
          rw [List.flatMap_cons, toList_listText_cons_cons, segments_append_cons,
            segments_cons_of_blank (by decide), ih]

theorem length_le_segments (cs : List Candidate) :
    cs.length ≤ (cs.flatMap fun c => segments c.toText.toList).length := by
  induction cs with
  | nil => simp
  | cons c rest ih =>
      have hpos := length_segments_pos c
      simp only [List.length_cons, List.flatMap_cons, List.length_append]
      omega

/-- Segments that give as many candidates as there are texts give each candidate from its own
text. -/
theorem ofSegments_flatMap_iff (cs : List Candidate) :
    ofSegments (cs.flatMap fun c => segments c.toText.toList) = ⟨cs, []⟩ ↔
      ∀ c ∈ cs, c.IsLegible := by
  induction cs with
  | nil => simp [ofSegments]
  | cons c rest ih =>
      rw [List.forall_mem_cons, ← ih, ← readSegment_toText_iff c, List.flatMap_cons]
      constructor
      · intro h
        -- Each text has a segment, and there are no more segments than candidates.
        have htotal := length_ofSegments
          (segments c.toText.toList ++ rest.flatMap fun c => segments c.toText.toList)
        have hpos := length_segments_pos c
        have hrest := length_le_segments rest
        simp only [h, List.length_append, List.length_cons, List.length_nil] at htotal
        obtain ⟨s, hs⟩ := List.length_eq_one_iff.mp
          (show (segments c.toText.toList).length = 1 by omega)
        rw [hs, List.singleton_append] at h
        cases hread : readSegment s with
        | error fault => simp [ofSegments, hread] at h
        | ok found =>
            simp only [ofSegments, hread, Answer.mk.injEq, List.cons.injEq] at h
            obtain ⟨⟨rfl, hcandidates⟩, hrejected⟩ := h
            have hparts : ofSegments (rest.flatMap fun c => segments c.toText.toList) =
                ⟨(ofSegments (rest.flatMap fun c => segments c.toText.toList)).candidates,
                  (ofSegments (rest.flatMap fun c => segments c.toText.toList)).rejected⟩ := rfl
            rw [hcandidates, hrejected] at hparts
            exact ⟨⟨s, hs, hread⟩, hparts⟩
      · rintro ⟨⟨s, hs, hread⟩, hrest⟩
        simp [hs, ofSegments, hread, hrest]

/-- A list of candidates is read back from its text, with nothing set aside, exactly if each proxy
in it has a port that is not zero and a host that is not empty, is not blank at either end and holds
no semicolon; that holds no closing bracket if it holds a colon, and does not begin with an opening
one if it does not. -/
theorem ofText_toText_iff (cs : List Candidate) :
    ofText (Selection.proxies cs).toText = ⟨cs, []⟩ ↔ ∀ c ∈ cs, c.IsLegible := by
  rw [ofText, Selection.toText, segments_listText, ofSegments_flatMap_iff]

/-! ### What reading finds -/

/-- What is found in an answer is legible but for the brackets of its host. -/
theorem isLegible_of_mem_ofText {answer : String} {p : Protocol} {e : Endpoint}
    (h : .proxy p e ∈ (ofText answer).candidates) :
    e.IsLegible ↔
      (':' ∈ e.host.toList → ']' ∉ e.host.toList) ∧
        (':' ∉ e.host.toList → e.host.toList.head? ≠ some '[') := by
  refine ⟨fun he => ⟨he.closing, he.opening⟩, fun ⟨hclosing, hopening⟩ => ?_⟩
  obtain ⟨hport, hne, htrimmed, hsemicolon⟩ := isSound_of_mem_ofText h
  exact ⟨hport, hne, htrimmed, hsemicolon, hclosing, hopening⟩

/-- What is found in an answer is found again in its text, with nothing set aside, exactly if no
host that is found holds both a colon and a closing bracket, or begins with an opening bracket and
holds no colon. -/
theorem ofText_toText_ofText_iff (answer : String) :
    ofText (Selection.proxies (ofText answer).candidates).toText =
        ⟨(ofText answer).candidates, []⟩ ↔
      ∀ p e, .proxy p e ∈ (ofText answer).candidates →
        (':' ∈ e.host.toList → ']' ∉ e.host.toList) ∧
          (':' ∉ e.host.toList → e.host.toList.head? ≠ some '[') := by
  rw [ofText_toText_iff]
  constructor
  · intro h p e he
    exact (isLegible_of_mem_ofText he).mp (h _ he e rfl)
  · intro h c hc e he
    cases c with
    | direct => cases he
    | proxy p endpoint =>
        cases he
        exact (isLegible_of_mem_ofText hc).mpr (h p e hc)

/-- A bracket that is never closed: the host that is found is found with the port the second
time. -/
theorem ofText_toText_unclosed :
    ofText (Selection.proxies (ofText "PROXY [abc").candidates).toText ≠
      ⟨(ofText "PROXY [abc").candidates, []⟩ := by
  decide

end Answer

end AutoProxy
