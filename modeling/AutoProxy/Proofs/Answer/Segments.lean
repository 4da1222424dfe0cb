import AutoProxy.Candidate
import AutoProxy.Proofs.Decimal
import AutoProxy.Proofs.Text

/-!
Reading an answer segment by segment. The segments of a text are trimmed parts of it that are not blank
(`exists_of_mem_segments`) and hold no semicolon (`not_mem_of_mem_segments`), and the segments on either
side of a semicolon are found independently (`segments_append_cons`). Each segment gives one candidate or
one rejection (`candidates_ofSegments`, `length_ofSegments`).

A proxy is read at an address with a host that is not empty and, if one is given, a port
(`readEndpoint_eq_ok_iff`, `port?_eq_some_iff`). The host is never blank at its ends, and its characters are
those of the address (`isTrimmed_cutPort`, `mem_of_mem_cutPort`).
-/

namespace AutoProxy.Answer

open Text

variable {cs segment : List Char} {c : Char}

/-! ### Segments -/

theorem segments_append_cons (front back : List Char) :
    segments (front ++ ';' :: back) = segments front ++ segments back := by
  simp [segments, split_append_cons]

/-- A text without a semicolon is one segment, or none if it is blank. -/
theorem segments_of_not_mem (h : ';' ∉ cs) :
    segments cs = if trim cs = [] then [] else [trim cs] := by
  rw [segments, split_of_not_mem h]
  by_cases hblank : trim cs = []
  · simp [hblank]
  · simp [hblank]

theorem segments_cons_of_blank (h : isBlank c = true) : segments (c :: cs) = segments cs := by
  have hc : c ≠ ';' := by
    rintro rfl
    exact absurd h (by decide)
  obtain ⟨first, rest, hsplit⟩ := List.exists_cons_of_ne_nil (split_ne_nil ';' cs)
  simp [segments, split, hc, hsplit, trim_cons_of_blank h]

theorem exists_of_mem_segments (h : segment ∈ segments cs) :
    segment ≠ [] ∧ ∃ part ∈ split ';' cs, trim part = segment := by
  simp only [segments, List.mem_filter, List.mem_map] at h
  obtain ⟨hpart, hne⟩ := h
  exact ⟨by simpa using hne, hpart⟩

theorem not_mem_of_mem_segments (h : segment ∈ segments cs) : ';' ∉ segment := by
  obtain ⟨-, part, hpart, rfl⟩ := exists_of_mem_segments h
  exact fun hmem => not_mem_of_mem_split hpart (mem_of_mem_trim hmem)

/-- Something in a text that is neither blank nor a semicolon makes a segment. -/
theorem segments_ne_nil (h : c ∈ cs) (hblank : isBlank c = false) (hc : c ≠ ';') :
    segments cs ≠ [] := by
  obtain ⟨part, hpart, hmem⟩ := exists_mem_split h hc
  have hne : trim part ≠ [] := by
    intro hnil
    have hall := trim_eq_nil_iff.mp hnil c hmem
    rw [hblank] at hall
    exact Bool.noConfusion hall
  have hmem' : trim part ∈ segments cs := by
    simp only [segments, List.mem_filter, List.mem_map]
    exact ⟨⟨part, hpart, rfl⟩, by simpa using hne⟩
  exact List.ne_nil_of_mem hmem'

/-! ### Candidates and rejections -/

def rejection? (segment : List Char) : Option Rejection :=
  match readSegment segment with
  | .ok _ => none
  | .error fault => some ⟨String.ofList segment, fault⟩

/-- The candidates of an answer are those of its segments, in order. -/
theorem candidates_ofSegments (segments : List (List Char)) :
    (ofSegments segments).candidates = segments.filterMap fun s => (readSegment s).toOption := by
  induction segments with
  | nil => rfl
  | cons s rest ih =>
      cases h : readSegment s with
      | ok candidate => simp [ofSegments, h, ih, Except.toOption]
      | error fault => simp [ofSegments, h, ih, Except.toOption]

/-- The rejections of an answer are those of its segments, in order. -/
theorem rejected_ofSegments (segments : List (List Char)) :
    (ofSegments segments).rejected = segments.filterMap rejection? := by
  induction segments with
  | nil => rfl
  | cons s rest ih =>
      cases h : readSegment s with
      | ok candidate => simp [ofSegments, h, ih, rejection?]
      | error fault => simp [ofSegments, h, ih, rejection?]

/-- Each segment gives one candidate or one rejection. -/
theorem length_ofSegments (segments : List (List Char)) :
    (ofSegments segments).candidates.length + (ofSegments segments).rejected.length
      = segments.length := by
  induction segments with
  | nil => rfl
  | cons s rest ih =>
      cases h : readSegment s with
      | ok candidate => simp [ofSegments, h]; omega
      | error fault => simp [ofSegments, h]; omega

/-! ### Words -/

theorem isTrimmed_cutWord (segment : List Char) : IsTrimmed (cutWord segment).2 := by
  rw [cutWord]
  split
  · exact isTrimmed_trim _
  · exact ⟨by simp, by simp⟩

theorem mem_of_mem_cutWord (h : c ∈ (cutWord segment).2) : c ∈ segment := by
  rw [cutWord] at h
  split at h
  · next word rest hcut =>
    obtain ⟨d, -, rfl, -⟩ := cut_eq_some_iff.mp hcut
    simp [mem_of_mem_trim h]
  · simp at h

/-! ### Addresses of proxies -/

/-- A proxy is read from an address with a host that is not empty and, if a port is given, a
port. -/
theorem readEndpoint_eq_ok_iff {address : List Char} {port : UInt16} {e : Endpoint} :
    readEndpoint address port = .ok e ↔
      (cutPort address).1 ≠ [] ∧ e.host = String.ofList (cutPort address).1 ∧
        match (cutPort address).2 with
        | none => e.port = port
        | some text => port? text = some e.port := by
  obtain ⟨host, port'⟩ := e
  cases hcut : cutPort address with
  | mk found text =>
      by_cases hfound : found = []
      · simp [readEndpoint, hcut, hfound]
      · cases text with
        | none =>
            simp only [readEndpoint, hcut, List.isEmpty_iff, hfound, if_false, Except.ok.injEq,
              Endpoint.mk.injEq, ne_eq, not_false_eq_true, true_and]
            exact and_congr eq_comm eq_comm
        | some text =>
            cases hport : port? text with
            | none => simp [readEndpoint, hcut, hfound, hport]
            | some p =>
                simp only [readEndpoint, hcut, List.isEmpty_iff, hfound, if_false, hport,
                  Except.ok.injEq, Endpoint.mk.injEq, ne_eq, not_false_eq_true, true_and,
                  Option.some.injEq]
                exact and_congr_left' eq_comm

/-- The host in a trimmed address is trimmed. -/
theorem isTrimmed_cutPort {address : List Char} (h : IsTrimmed address) :
    IsTrimmed (cutPort address).1 := by
  unfold cutPort
  split
  · split
    · split <;> exact isTrimmed_trim _
    · exact h
  · split
    · exact h
    · split
      · exact isTrimmed_trim _
      · exact h

theorem mem_of_mem_cutPort {address : List Char} (h : c ∈ (cutPort address).1) : c ∈ address := by
  unfold cutPort at h
  split at h
  · split at h
    · next host rest hcut =>
      obtain ⟨d, -, rfl, -⟩ := cut_eq_some_iff.mp hcut
      split at h <;> simp [mem_of_mem_trim h]
    · exact h
  · split at h
    · exact h
    · split at h
      · next host port hcut =>
        obtain ⟨d, -, rfl, -⟩ := cutLast_eq_some_iff.mp hcut
        simp [mem_of_mem_trim h]
      · exact h

/-! ### Ports -/

/-- A port is read from the texts that denote a number from 1 to 65535. -/
theorem port?_eq_some_iff {text : List Char} {v : UInt16} :
    port? text = some v ↔ 1 ≤ v.toNat ∧ Number.Denotes text v.toNat := by
  have hread : Number.unsigned? 65536 text = some v.toNat ↔ Number.Denotes text v.toNat := by
    rw [Number.unsigned?_eq_some_iff]
    exact and_iff_right v.toNat_lt
  rw [← hread, port?]
  cases hnumber : Number.unsigned? 65536 text with
  | none => simp
  | some n =>
      have hbound := (Number.unsigned?_eq_some_iff.mp hnumber).1
      have hvalue : UInt16.ofNat n = v ↔ n = v.toNat := by
        rw [← UInt16.toNat_inj, UInt16.toNat_ofNat_of_lt' hbound]
      by_cases hzero : n = 0
      · simp only [hzero, if_true, reduceCtorEq, Option.some.injEq, false_iff, not_and]
        omega
      · simp only [hzero, if_false, Option.some.injEq, hvalue]
        omega

end AutoProxy.Answer
