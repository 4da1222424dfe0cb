import Mathlib.Data.List.Forall2
import AutoProxy.Proofs.Answer.Grammar

/-!
How an answer accounts for a text. Every part between semicolons that is not blank comes to one candidate
or to one rejection, which are those that it would come to if it were the whole text (`ComesTo`), and they
are listed in the order of the parts (`exists_outcomes`). So the answers to the two sides of a semicolon
are put together by appending their lists (`ofText_append`), and whatever is found is sound
(`isSound_of_mem_ofText`).
-/

namespace AutoProxy

open Text

/-- A host that is not empty, is not blank at either end and holds no semicolon, and a port that is not
zero. -/
structure Endpoint.IsSound (e : Endpoint) : Prop where
  port : 1 ≤ e.port.toNat ∧ e.port.toNat ≤ 65535
  nonempty : e.host ≠ ""
  trimmed : IsTrimmed e.host.toList
  noSemicolon : ';' ∉ e.host.toList

namespace Answer

/-! ### Proxies -/

/-- What a segment of an answer names is sound. -/
theorem isSound_of_readSegment {text segment : List Char} {p : Protocol} {e : Endpoint}
    (hsegment : segment ∈ segments text) (hread : readSegment segment = .ok (.proxy p e)) : e.IsSound := by
  obtain ⟨hne, hhost, hport⟩ := readEndpoint_eq_ok_iff.mp (readSegment_eq_proxy_iff.mp hread).2
  have hchars : e.host.toList = (cutPort (cutWord segment).2).1 := by
    rw [hhost, String.toList_ofList]
  refine ⟨?_, ?_, ?_, ?_⟩
  · refine ⟨?_, Nat.le_of_lt_succ e.port.toNat_lt⟩
    split at hport
    · rw [hport]
      cases p <;> decide
    · exact (port?_eq_some_iff.mp hport).1
  · intro hempty
    rw [hempty] at hchars
    exact hne hchars.symm
  · rw [hchars]
    exact isTrimmed_cutPort (isTrimmed_cutWord segment)
  · rw [hchars]
    intro hmem
    exact not_mem_of_mem_segments hsegment (mem_of_mem_cutWord (mem_of_mem_cutPort hmem))

/-- What is found in an answer is sound. -/
theorem isSound_of_mem_ofText {text : String} {p : Protocol} {e : Endpoint}
    (h : .proxy p e ∈ (ofText text).candidates) : e.IsSound := by
  rw [ofText, candidates_ofSegments, List.mem_filterMap] at h
  obtain ⟨segment, hsegment, hfound⟩ := h
  cases hread : readSegment segment with
  | ok found =>
      obtain rfl : found = .proxy p e := by simpa [hread, Except.toOption] using hfound
      exact isSound_of_readSegment hsegment hread
  | error fault => simp [hread, Except.toOption] at hfound

/-! ### Outcomes -/

/-- The parts of a text between semicolons, those left out that are blank. -/
def parts (text : String) : List (List Char) := (split ';' text.toList).filter fun part => !part.all isBlank

/-- A part that is a text of its own comes to a candidate, or to a rejection of what it is when trimmed. -/
inductive ComesTo (part : List Char) : Candidate ⊕ Rejection → Prop where
  | candidate {c : Candidate} : ofText (String.ofList part) = ⟨[c], []⟩ → ComesTo part (.inl c)
  | rejection {fault : SegmentFault} :
      ofText (String.ofList part) = ⟨[], [⟨trimmed (String.ofList part), fault⟩]⟩ →
      ComesTo part (.inr ⟨trimmed (String.ofList part), fault⟩)

def outcome (segment : List Char) : Candidate ⊕ Rejection :=
  match readSegment segment with
  | .ok c => .inl c
  | .error fault => .inr ⟨String.ofList segment, fault⟩

theorem segments_eq_map_parts (text : String) : segments text.toList = (parts text).map trim := by
  rw [segments, parts, List.filter_map]
  congr 1
  refine List.filter_congr fun part _ => ?_
  rw [Function.comp_apply, Bool.not_inj_iff, Bool.eq_iff_iff, List.isEmpty_iff, trim_eq_nil_iff,
    List.all_eq_true]

/-- A part comes to the outcome of its segment. -/
theorem comesTo_outcome {text : String} {part : List Char} (h : part ∈ parts text) :
    ComesTo part (outcome (trim part)) := by
  obtain ⟨hsplit, hblank⟩ := List.mem_filter.mp h
  have hne : trim part ≠ [] := by
    rw [ne_eq, trim_eq_nil_iff, ← List.all_eq_true]
    simpa using hblank
  have halone : ofText (String.ofList part) = ofSegments [trim part] := by
    rw [ofText, String.toList_ofList, segments_of_not_mem (not_mem_of_mem_split hsplit), if_neg hne]
  have htrimmed : String.ofList (trim part) = trimmed (String.ofList part) := by
    rw [trimmed, String.toList_ofList]
  cases hread : readSegment (trim part) with
  | ok c =>
      rw [outcome, hread]
      exact .candidate (by rw [halone]; simp [ofSegments, hread])
  | error fault =>
      rw [outcome, hread]
      simp only [htrimmed]
      exact .rejection (by rw [halone]; simp [ofSegments, hread, htrimmed])

/-- The candidates and the rejections of a text are what its parts come to, in their order. -/
theorem exists_outcomes (text : String) :
    ∃ outcomes, List.Forall₂ ComesTo (parts text) outcomes ∧
      (ofText text).candidates = outcomes.filterMap Sum.getLeft? ∧
      (ofText text).rejected = outcomes.filterMap Sum.getRight? := by
  refine ⟨(segments text.toList).map outcome, ?_, ?_, ?_⟩
  · rw [segments_eq_map_parts, List.map_map, List.forall₂_map_right_iff, List.forall₂_same]
    exact fun part hpart => comesTo_outcome hpart
  · rw [ofText, candidates_ofSegments, List.filterMap_map]
    refine List.filterMap_congr fun segment _ => ?_
    rw [Function.comp_apply, outcome]
    cases readSegment segment <;> rfl
  · rw [ofText, rejected_ofSegments, List.filterMap_map]
    refine List.filterMap_congr fun segment _ => ?_
    rw [Function.comp_apply, outcome, rejection?]
    cases readSegment segment <;> rfl

/-! ### Whole texts -/

/-- The two sides of a semicolon are answered one after the other. -/
theorem ofText_append (front back : String) :
    ofText (front ++ ";" ++ back) =
      ⟨(ofText front).candidates ++ (ofText back).candidates,
        (ofText front).rejected ++ (ofText back).rejected⟩ := by
  have hsegments : segments (front ++ ";" ++ back).toList =
      segments front.toList ++ segments back.toList := by
    rw [← segments_append_cons]
    simp
  have hparts (answer : Answer) : answer = ⟨answer.candidates, answer.rejected⟩ := rfl
  rw [hparts (ofText (front ++ ";" ++ back))]
  simp only [ofText, hsegments, candidates_ofSegments, rejected_ofSegments, List.filterMap_append]

/-- An answer accounts for its text: a semicolon divides it into two texts that are answered one after the
other, each part that is not blank comes to one candidate or to one rejection of it, in order, and all
proxies are sound. -/
theorem ofText_accounts :
    (∀ front back : String, ofText (front ++ ";" ++ back) =
      ⟨(ofText front).candidates ++ (ofText back).candidates,
        (ofText front).rejected ++ (ofText back).rejected⟩) ∧
    ∀ text : String,
      (∃ outcomes, List.Forall₂ ComesTo (parts text) outcomes ∧
        (ofText text).candidates = outcomes.filterMap Sum.getLeft? ∧
        (ofText text).rejected = outcomes.filterMap Sum.getRight?) ∧
      (ofText text).candidates.length + (ofText text).rejected.length = (parts text).length ∧
      ∀ p e, .proxy p e ∈ (ofText text).candidates → e.IsSound := by
  refine ⟨ofText_append, fun text => ⟨exists_outcomes text, ?_, fun p e he => isSound_of_mem_ofText he⟩⟩
  rw [ofText, length_ofSegments, segments_eq_map_parts, List.length_map]

/-- A port that is no number and one that is too large leave their neighbours alone. -/
example : ofText "PROXY a:x; PROXY b:8080; ;SOCKS c:70000 ; DIRECT" =
    ⟨[.proxy .http ⟨"b", 8080⟩, .direct],
      [⟨"PROXY a:x", .invalidPort "x"⟩, ⟨"SOCKS c:70000", .invalidPort "70000"⟩]⟩ := by decide

end Answer

end AutoProxy
