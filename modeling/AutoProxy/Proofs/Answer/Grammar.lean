import Mathlib.Data.List.Forall2
import Mathlib.Data.List.TakeWhile
import Mathlib.Tactic.ByContra
import Mathlib.Tactic.SplitIfs
import AutoProxy.Proofs.Answer.Segments

/-!
The grammar of a segment without its shortcuts. A segment names a proxy if its first word is one of six
keywords and something follows it; everything else means the direct way (`grammar`). The case of a word
does not matter, and it makes no difference whether capitals or small letters are compared
(`sameIgnoringCase_iff_toUpper`).

Before reading looks at the words it sorts out what begins like the word for the direct way and what is too
short. Neither test decides anything: a segment that names a proxy has six characters at least
(`length_of_grammar_ne`), and one that begins like the word for the direct way has a first word that is no
keyword (`grammar_of_startsWith`). So reading is the grammar, in whatever unit the length is measured
(`shortcuts_decide_nothing`).
-/

namespace AutoProxy

open Text

/-! ### Letters -/

theorem toNat_toLower (c : Char) :
    c.toLower.toNat = if 65 ≤ c.toNat ∧ c.toNat ≤ 90 then c.toNat + 32 else c.toNat := by
  have hcapital : (c.val ≥ 'A'.val ∧ c.val ≤ 'Z'.val) ↔ 65 ≤ c.toNat ∧ c.toNat ≤ 90 := by
    simp [UInt32.le_iff_toNat_le]
  by_cases h : 65 ≤ c.toNat ∧ c.toNat ≤ 90
  · have hmoved : c.toLower = ⟨c.val + ('a'.val - 'A'.val), _⟩ := dif_pos (hcapital.mpr h)
    rw [if_pos h, hmoved, ← Char.toNat_val, UInt32.toNat_add, Char.toNat_val]
    simp
    omega
  · have hsame : c.toLower = c := dif_neg (mt hcapital.mp h)
    rw [if_neg h, hsame]

theorem toNat_toUpper (c : Char) :
    c.toUpper.toNat = if 97 ≤ c.toNat ∧ c.toNat ≤ 122 then c.toNat - 32 else c.toNat := by
  have hsmall : ('a'.val ≤ c.val ∧ c.val ≤ 'z'.val) ↔ 97 ≤ c.toNat ∧ c.toNat ≤ 122 := by
    simp [UInt32.le_iff_toNat_le]
  by_cases h : 97 ≤ c.toNat ∧ c.toNat ≤ 122
  · -- thirty-two less, on the circle of 32 bits
    have hmoved : c.toUpper = ⟨c.val + ('A'.val - 'a'.val), _⟩ := dif_pos (hsmall.mpr h)
    rw [if_pos h, hmoved, ← Char.toNat_val, UInt32.toNat_add, Char.toNat_val]
    simp
    omega
  · have hsame : c.toUpper = c := dif_neg (mt hsmall.mp h)
    rw [if_neg h, hsame]

/-- Two letters have one capital exactly if they have one small form. -/
theorem toUpper_eq_toUpper_iff {c d : Char} : c.toUpper = d.toUpper ↔ c.toLower = d.toLower := by
  simp only [← Char.toNat_inj, toNat_toUpper, toNat_toLower]
  split_ifs <;> omega

theorem toLower_of_isBlank {c : Char} (h : isBlank c = true) : c.toLower = c := by
  simp only [isBlank, Bool.or_eq_true, Bool.and_eq_true, decide_eq_true_eq, beq_iff_eq] at h
  rw [← Char.toNat_inj, toNat_toLower, if_neg]
  omega

/-- Texts have the same capitals exactly if they are the same up to the case of their letters. -/
theorem sameIgnoringCase_iff_toUpper {a b : List Char} :
    sameIgnoringCase a b = true ↔ toUpper a = toUpper b := by
  rw [sameIgnoringCase, beq_iff_eq]
  simp only [toLower, toUpper, ← List.forall₂_eq_eq_eq, List.forall₂_map_left_iff,
    List.forall₂_map_right_iff, toUpper_eq_toUpper_iff]

/-! ### Keywords -/

namespace Protocol

/-- The keywords of answers, with the protocols that they stand for. -/
def keywords : List (String × Protocol) :=
  [("PROXY", http), ("HTTP", http), ("HTTPS", https), ("SOCKS", socks5), ("SOCKS4", socks4),
    ("SOCKS5", socks5)]

/-- The word is a keyword of the protocol, in any case of its letters. -/
def IsKeyword (p : Protocol) (word : List Char) : Prop :=
  ∃ keyword, (keyword, p) ∈ keywords ∧ sameIgnoringCase word keyword.toList = true

variable {p : Protocol} {word : List Char}

theorem isKeyword_iff : p.IsKeyword word ↔ (String.ofList (toUpper word), p) ∈ keywords := by
  have hcapitals : ∀ entry ∈ keywords, toUpper entry.1.toList = entry.1.toList := by decide
  constructor
  · rintro ⟨keyword, hmem, hsame⟩
    rw [sameIgnoringCase_iff_toUpper, hcapitals _ hmem] at hsame
    rwa [hsame, String.ofList_toList]
  · intro hmem
    refine ⟨_, hmem, ?_⟩
    rw [sameIgnoringCase_iff_toUpper, hcapitals _ hmem, String.toList_ofList]

/-- The words that are understood are the keywords. -/
theorem ofKeyword?_eq_some_iff : ofKeyword? word = some p ↔ p.IsKeyword word := by
  rw [isKeyword_iff, ofKeyword?, show word.map Char.toUpper = toUpper word from rfl]
  generalize String.ofList (toUpper word) = capitals
  split <;> simp_all [keywords, eq_comm]

/-- A keyword has four letters at least. -/
theorem IsKeyword.length_le (h : p.IsKeyword word) : 4 ≤ word.length := by
  have hlong : ∀ entry ∈ keywords, 4 ≤ entry.1.toList.length := by decide
  have hlength := hlong _ (isKeyword_iff.mp h)
  simpa [toUpper] using hlength

/-- A keyword does not begin like the word for the direct way. -/
theorem IsKeyword.take_ne (h : p.IsKeyword word) :
    sameIgnoringCase "DIRECT".toList (word.take 6) = false := by
  have hother : ∀ entry ∈ keywords, sameIgnoringCase "DIRECT".toList (entry.1.toList.take 6) = false := by
    decide
  obtain ⟨keyword, hmem, hsame⟩ := h
  have htake : toLower (word.take 6) = toLower (keyword.toList.take 6) := by
    have hlower : toLower word = toLower keyword.toList := beq_iff_eq.mp hsame
    rw [toLower, toLower, List.map_take, List.map_take]
    exact congrArg (List.take 6) hlower
  rw [← hother _ hmem, sameIgnoringCase, sameIgnoringCase, htake]

/-- A keyword holds no blank. -/
theorem IsKeyword.isBlank_of_mem {c : Char} (h : p.IsKeyword word) (hc : c ∈ word) : isBlank c = false := by
  have hletters : ∀ entry ∈ keywords, (toLower entry.1.toList).all (fun c => !isBlank c) = true := by decide
  obtain ⟨keyword, hmem, hsame⟩ := h
  have hlower : c.toLower ∈ toLower keyword.toList := by
    rw [← beq_iff_eq.mp hsame]
    exact List.mem_map_of_mem hc
  rw [← Bool.not_eq_true]
  intro hblank
  rw [toLower_of_isBlank hblank] at hlower
  have hnot := List.all_eq_true.mp (hletters _ hmem) c hlower
  simp [hblank] at hnot

end Protocol

namespace Answer

variable {segment : List Char}

/-! ### Words -/

/-- The text before the first blank. -/
def firstWord (segment : List Char) : List Char := segment.takeWhile fun c => !isBlank c

/-- The text from the first blank on. -/
def afterWord (segment : List Char) : List Char := segment.dropWhile fun c => !isBlank c

/-- The candidate that a segment names by its words: a proxy if its first word is a keyword and what follows
is not blank, and else the direct way. -/
def grammar (segment : List Char) : Except SegmentFault Candidate :=
  let rest := trim (afterWord segment)
  match Protocol.keywords.find? fun entry => sameIgnoringCase (firstWord segment) entry.1.toList with
  | some (_, p) => if rest = [] then .ok .direct else (readEndpoint rest p.defaultPort).map (.proxy p)
  | none => .ok .direct

theorem firstWord_append_afterWord (segment : List Char) : firstWord segment ++ afterWord segment = segment :=
  List.takeWhile_append_dropWhile

theorem isBlank_of_mem_firstWord {c : Char} (h : c ∈ firstWord segment) : isBlank c = false := by
  simpa using List.mem_takeWhile_imp h

theorem isBlank_of_afterWord {c : Char} {rest : List Char} (h : afterWord segment = c :: rest) :
    isBlank c = true := by
  have hne : afterWord segment ≠ [] := by
    rw [h]
    exact List.cons_ne_nil c rest
  have hhead := List.head_dropWhile_not _ hne
  simp only [show segment.dropWhile _ = c :: rest from h, List.head_cons] at hhead
  simpa using hhead

/-- A segment is cut after its first word. -/
theorem cutWord_eq (segment : List Char) : cutWord segment = (firstWord segment, trim (afterWord segment)) := by
  have hparts := firstWord_append_afterWord segment
  cases hrest : afterWord segment with
  | nil =>
      rw [hrest, List.append_nil] at hparts
      have hcut : cut isBlank segment = none := by
        rw [cut_eq_none_iff, ← hparts]
        exact fun c hc => isBlank_of_mem_firstWord hc
      rw [cutWord, hcut, hparts]
      rfl
  | cons c rest =>
      have hc := isBlank_of_afterWord hrest
      have hword : ∀ d ∈ firstWord segment, isBlank d = false := fun d hd => isBlank_of_mem_firstWord hd
      have hcut := cut_append_cons rest hword hc
      rw [← hrest, hparts] at hcut
      rw [cutWord, hcut, trim_cons_of_blank hc]

/-- A segment is cut at the blanks behind its first word. -/
theorem cutWord_append {word gap : List Char} (hword : ∀ c ∈ word, isBlank c = false) (hgap : gap ≠ [])
    (hblank : ∀ c ∈ gap, isBlank c = true) (address : List Char) :
    cutWord (word ++ gap ++ address) = (word, trim address) := by
  obtain ⟨c, rest, rfl⟩ := List.exists_cons_of_ne_nil hgap
  obtain ⟨hc, hrest⟩ := List.forall_mem_cons.mp hblank
  rw [List.append_assoc, List.cons_append, cutWord, cut_append_cons _ hword hc]
  simp only [trim_blank_append hrest]

/-- The protocol that a word is found under is the one that it stands for. -/
theorem map_find?_keywords (word : List Char) :
    (Protocol.keywords.find? fun entry => sameIgnoringCase word entry.1.toList).map Prod.snd =
      Protocol.ofKeyword? word := by
  cases hfind : Protocol.keywords.find? fun entry => sameIgnoringCase word entry.1.toList with
  | some entry =>
      have hsame := List.find?_some hfind
      have hkeyword : entry.2.IsKeyword word := ⟨entry.1, List.mem_of_find?_eq_some hfind, hsame⟩
      rw [Protocol.ofKeyword?_eq_some_iff.mpr hkeyword, Option.map_some]
  | none =>
      rw [Option.map_none, eq_comm, Option.eq_none_iff_forall_not_mem]
      intro p hp
      obtain ⟨keyword, hmem, hsame⟩ := Protocol.ofKeyword?_eq_some_iff.mp hp
      exact List.find?_eq_none.mp hfind _ hmem hsame

/-- Behind the two tests a segment is read by its words. -/
theorem readSegment_eq_ite (segment : List Char) :
    readSegment segment =
      if startsWithIgnoringCase "DIRECT".toList segment || byteLength segment < minLength then .ok .direct
      else grammar segment := by
  rw [readSegment, cutWord_eq, grammar]
  congr 1
  simp only [← map_find?_keywords]
  cases Protocol.keywords.find? fun entry => sameIgnoringCase (firstWord segment) entry.1.toList with
  | some entry => simp
  | none => rfl

/-! ### Shortcuts -/

/-- What is not the direct way begins with a keyword, and something follows it. -/
theorem exists_of_grammar_ne (h : grammar segment ≠ .ok .direct) :
    ∃ p : Protocol, p.IsKeyword (firstWord segment) ∧ trim (afterWord segment) ≠ [] := by
  rw [grammar] at h
  split at h
  · next keyword p hfind =>
    have hsame := List.find?_some hfind
    exact ⟨p, ⟨keyword, List.mem_of_find?_eq_some hfind, hsame⟩, fun hrest => h (if_pos hrest)⟩
  · exact absurd rfl h

/-- A keyword, a blank and something that is not blank are six characters. -/
theorem length_of_grammar_ne (h : grammar segment ≠ .ok .direct) : minLength ≤ segment.length := by
  obtain ⟨p, hkeyword, hrest⟩ := exists_of_grammar_ne h
  have hword := hkeyword.length_le
  have hafter : 2 ≤ (afterWord segment).length := by
    cases hdrop : afterWord segment with
    | nil => exact absurd (by rw [hdrop]; rfl) hrest
    | cons c rest =>
        rw [hdrop, trim_cons_of_blank (isBlank_of_afterWord hdrop)] at hrest
        have hne : rest ≠ [] := by
          rintro rfl
          exact hrest rfl
        have hpos := List.length_pos_iff.mpr hne
        rw [List.length_cons]
        omega
  rw [← firstWord_append_afterWord segment, List.length_append, minLength]
  omega

/-- What begins like the word for the direct way has a first word that is no keyword: none of the six
characters is blank, so that they all belong to it. -/
theorem grammar_of_startsWith (h : startsWithIgnoringCase "DIRECT".toList segment = true) :
    grammar segment = .ok .direct := by
  by_contra hne
  obtain ⟨p, hkeyword, -⟩ := exists_of_grammar_ne hne
  have hlower : "direct".toList = toLower (segment.take 6) := beq_iff_eq.mp h
  have hnot : ∀ c ∈ segment.take 6, (!isBlank c) = true := by
    intro c hc
    have hletter : c.toLower ∈ "direct".toList := hlower ▸ List.mem_map_of_mem hc
    by_contra hblank
    rw [toLower_of_isBlank (by simpa using hblank)] at hletter
    have hletters : ("direct".toList.all fun c => !isBlank c) = true := by decide
    exact hblank (List.all_eq_true.mp hletters c hletter)
  have hword : (firstWord segment).take 6 = segment.take 6 := by
    have hlength : (segment.take 6).length = 6 :=
      calc (segment.take 6).length = (toLower (segment.take 6)).length := (List.length_map _).symm
        _ = "direct".toList.length := congrArg List.length hlower.symm
        _ = 6 := by decide
    have hbegin : firstWord (segment.take 6 ++ segment.drop 6) =
        segment.take 6 ++ firstWord (segment.drop 6) := List.takeWhile_append_of_pos hnot
    rw [List.take_append_drop] at hbegin
    rw [hbegin, List.take_left' hlength]
  have hother := hkeyword.take_ne
  rw [hword] at hother
  exact Bool.noConfusion (hother.symm.trans h)

theorem length_le_byteLength (cs : List Char) : cs.length ≤ byteLength cs := by
  induction cs with
  | nil => exact Nat.le_refl 0
  | cons c cs ih =>
      have hc := c.utf8Size_pos
      simp only [byteLength, List.length_cons, List.foldr_cons] at ih ⊢
      omega

/-- Reading, with the length of a segment in another measure than bytes. -/
def readMeasured (measure : List Char → Nat) (segment : List Char) : Except SegmentFault Candidate :=
  if startsWithIgnoringCase "DIRECT".toList segment || measure segment < minLength then .ok .direct
  else grammar segment

/-- The two tests change nothing, in a measure that counts each character. -/
theorem readMeasured_eq_grammar {measure : List Char → Nat} (h : segment.length ≤ measure segment) :
    readMeasured measure segment = grammar segment := by
  rw [readMeasured]
  split
  · next htest =>
    simp only [Bool.or_eq_true, decide_eq_true_eq] at htest
    rcases htest with hstart | hshort
    · exact (grammar_of_startsWith hstart).symm
    · by_contra hne
      have hlong := length_of_grammar_ne (Ne.symm hne)
      omega
  · rfl

/-- Reading a segment is its grammar. -/
theorem readSegment_eq_grammar (segment : List Char) : readSegment segment = grammar segment :=
  (readSegment_eq_ite segment).trans (readMeasured_eq_grammar (length_le_byteLength segment))

/-- Neither of the two tests decides anything: what begins like the word for the direct way or is too short
to hold a keyword and an address means the direct way anyhow, and it makes no difference whether the length
is that in bytes or that in characters. -/
theorem shortcuts_decide_nothing (segment : List Char) :
    readSegment segment = grammar segment ∧ readMeasured byteLength segment = grammar segment ∧
      readMeasured List.length segment = grammar segment :=
  ⟨readSegment_eq_grammar segment, readMeasured_eq_grammar (length_le_byteLength segment),
    readMeasured_eq_grammar (Nat.le_refl _)⟩

/-- Six characters, a blank of three bytes among them, are long enough to name a proxy; seven letters that
begin like the word for the direct way are no keyword. -/
example : readSegment "Http\u2003h".toList = .ok (.proxy .http ⟨"h", 80⟩) ∧
    readSegment "DIRECTx h:1".toList = .ok .direct := by decide

/-! ### Outcomes -/

theorem exists_of_readSegment_ne (h : readSegment segment ≠ .ok .direct) :
    ∃ p : Protocol, p.IsKeyword (cutWord segment).1 ∧ (cutWord segment).2 ≠ [] := by
  rw [readSegment_eq_grammar] at h
  rw [cutWord_eq]
  exact exists_of_grammar_ne h

/-- Behind a keyword the proxy is read at the address. -/
theorem readSegment_of_isKeyword {p : Protocol} (hkeyword : p.IsKeyword (cutWord segment).1)
    (haddress : (cutWord segment).2 ≠ []) :
    readSegment segment = (readEndpoint (cutWord segment).2 p.defaultPort).map (.proxy p) := by
  rw [cutWord_eq] at hkeyword haddress ⊢
  have hfound := map_find?_keywords (firstWord segment)
  rw [Protocol.ofKeyword?_eq_some_iff.mpr hkeyword, Option.map_eq_some_iff] at hfound
  obtain ⟨⟨keyword, q⟩, hfind, rfl⟩ := hfound
  rw [readSegment_eq_grammar, grammar, hfind]
  exact if_neg haddress

/-- Behind a keyword and blanks the proxy is read at the trimmed rest. -/
theorem readSegment_append {p : Protocol} {word gap address : List Char} (hword : p.IsKeyword word)
    (hgap : gap ≠ []) (hblank : ∀ c ∈ gap, isBlank c = true) (haddress : trim address ≠ []) :
    readSegment (word ++ gap ++ address) = (readEndpoint (trim address) p.defaultPort).map (.proxy p) := by
  have hcut := cutWord_append (fun c hc => hword.isBlank_of_mem hc) hgap hblank address
  have hread := readSegment_of_isKeyword (p := p) (by rw [hcut]; exact hword) (by rw [hcut]; exact haddress)
  rwa [hcut] at hread

/-- A segment names a proxy by a keyword and an address at which the proxy is read. -/
theorem readSegment_eq_proxy_iff {p : Protocol} {e : Endpoint} :
    readSegment segment = .ok (.proxy p e) ↔
      p.IsKeyword (cutWord segment).1 ∧ readEndpoint (cutWord segment).2 p.defaultPort = .ok e := by
  constructor
  · intro h
    have hne : readSegment segment ≠ .ok .direct := by simp [h]
    obtain ⟨q, hkeyword, haddress⟩ := exists_of_readSegment_ne hne
    rw [readSegment_of_isKeyword hkeyword haddress] at h
    cases hread : readEndpoint (cutWord segment).2 q.defaultPort with
    | error fault => simp [hread, Except.map] at h
    | ok found =>
        simp only [hread, Except.map, Except.ok.injEq, Candidate.proxy.injEq] at h
        obtain ⟨rfl, rfl⟩ := h
        exact ⟨hkeyword, hread⟩
  · rintro ⟨hkeyword, hread⟩
    have haddress : (cutWord segment).2 ≠ [] := by
      intro hempty
      rw [hempty] at hread
      cases hread
    rw [readSegment_of_isKeyword hkeyword haddress, hread]
    rfl

/-- A segment means the direct way if its first word is no keyword or nothing follows it. -/
theorem readSegment_eq_direct_iff :
    readSegment segment = .ok .direct ↔
      (∀ p : Protocol, ¬ p.IsKeyword (cutWord segment).1) ∨ (cutWord segment).2 = [] := by
  constructor
  · intro h
    by_contra! hproxy
    obtain ⟨⟨p, hkeyword⟩, haddress⟩ := hproxy
    rw [readSegment_of_isKeyword hkeyword haddress] at h
    cases hread : readEndpoint (cutWord segment).2 p.defaultPort <;> simp [hread, Except.map] at h
  · intro h
    by_contra hne
    obtain ⟨p, hkeyword, haddress⟩ := exists_of_readSegment_ne hne
    rcases h with hnone | hempty
    · exact hnone p hkeyword
    · exact haddress hempty

end Answer

end AutoProxy
