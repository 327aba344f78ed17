import Recipients.Proofs.Address.Reading
import Recipients.Proofs.Text

/-
  Reading address text piece by piece. `Takes` lists what a step can do, one case for each kind of
  character. The lemmas after it say what one piece of the input does to the draft of a list,
  whatever follows: `d.scan (piece ++ rest) = d'.scan rest`.
-/

namespace Recipients
namespace AddressList
namespace Draft

open Address (isGap isSpecial isOrdinary skipGap skipGap_cons isGap_of_isSpecial isOrdinary_iff
  readToken readQuoted readComment readAngle joinComment Stops stops_cons)

variable {d d' : Draft} {rest : Text}

/-! ## One step -/

/-- A character that has no meaning of its own between entries. -/
def IsWordStart (c : Char) : Prop := c ∉ [',', ';', ':', '(', '"', '<', '\\']

theorem IsWordStart.of_isOrdinary {c : Char} (h : isOrdinary c = true) : IsWordStart c := by
  intro hc
  have hmark : ∀ c ∈ [',', ';', ':', '(', '"', '<', '\\'], isOrdinary c = false :=
    Text.forall_mem_of_all (by decide)
  rw [hmark c hc] at h
  cases h

/-- What a step does: the character it takes up and the input behind it, the draft afterwards and the
    input that is left. -/
inductive Takes (d : Draft) (gap : Bool) :
    (c : Char) → (r : Text) → (d' : Draft) → (rest : Text) → Prop
  | comma (r : Text) : Takes d gap ',' r d.close.clear r
  | semicolon (r : Text) : Takes d gap ';' r (d.close.push Address.groupEnd 0) r
  | colon (r : Text) : Takes d gap ':' r (d.push (Address.groupMarker d.phrase) 0) r
  | comment {r body rest : Text} (h : readComment 0 r = .ok (body, rest)) :
      Takes d gap '(' r { d with comment := joinComment d.comment body } rest
  | quote {r body rest : Text} (h : readQuoted r = .ok (body, rest)) :
      Takes d gap '"' r
        { d with
          phrase := d.joined true ++ (if rest.head? == some '@' then Address.quoted body else body) } rest
  | angle {r rest : Text} {a : Address}
      (h : readAngle (if d.phrase.isEmpty then none else some d.phrase) d.comment r = .ok (a, rest)) :
      Takes d gap '<' r (d.push a 1) rest
  | escape {r t rest : Text} (h : readToken r.tail = .ok (t, rest)) :
      Takes d gap '\\' r { d with phrase := d.joined gap ++ r.take 1 ++ t } rest
  | word {c : Char} {r t rest : Text} (hc : IsWordStart c) (h : readToken (c :: r) = .ok (t, rest)) :
      Takes d gap c r { d with phrase := d.joined gap ++ t } rest

theorem step_eq_ok_iff {gap : Bool} {c : Char} {r : Text} :
    d.step gap c r = .ok (d', rest) ↔ Takes d gap c r d' rest := by
  constructor
  · intro h
    unfold step at h
    split at h
    · cases h
      exact .comma _
    · cases h
      exact .semicolon _
    · cases h
      exact .colon _
    · split at h
      · cases h
      · cases h
        exact .comment ‹_›
    · split at h
      · cases h
      · cases h
        exact .quote ‹_›
    · split at h
      · cases h
      · cases h
        exact .angle ‹_›
    · split at h
      · cases h
      · cases h
        exact .escape ‹_›
    · split at h
      · cases h
      · cases h
        refine .word ?_ ‹_›
        unfold IsWordStart
        simp_all
  · intro h
    cases h with
    | comma | semicolon | colon => rfl
    | comment h | quote h | angle h | escape h => simp only [step, h]
    | word hc h =>
      unfold step
      unfold IsWordStart at hc
      split <;> simp_all

theorem scan_end {cs : Text} (h : skipGap cs = []) : d.scan cs = (d.close, none) := by
  rw [scan]
  split
  · rfl
  · rename_i h'
    rw [h] at h'
    cases h'

theorem scan_step {cs r : Text} {c : Char} (h : skipGap cs = c :: r)
    (hs : d.step (cs.head?.any isGap) c r = .ok (d', rest)) : d.scan cs = d'.scan rest := by
  rw [scan]
  split
  · rename_i h'
    rw [h] at h'
    cases h'
  · rename_i h'
    rw [h] at h'
    cases h'
    split
    · rename_i hs'
      rw [hs] at hs'
      cases hs'
    · rename_i hs'
      rw [hs] at hs'
      cases hs'
      rfl

theorem scan_error {cs r : Text} {c : Char} {e : ParseError} (h : skipGap cs = c :: r)
    (hs : d.step (cs.head?.any isGap) c r = .error e) : d.scan cs = (d, some e) := by
  rw [scan]
  split
  · rename_i h'
    rw [h] at h'
    cases h'
  · rename_i h'
    rw [h] at h'
    cases h'
    split
    · rename_i hs'
      rw [hs] at hs'
      cases hs'
      rfl
    · rename_i hs'
      rw [hs] at hs'
      cases hs'

theorem scan_cons {r : Text} {c : Char} (hc : isGap c = false)
    (hs : d.step false c r = .ok (d', rest)) : d.scan (c :: r) = d'.scan rest :=
  scan_step (skipGap_cons hc r) (by rw [List.head?_cons, Option.any_some, hc]; exact hs)

/-- Texts with the same step to take are read alike. -/
theorem scan_congr {cs cs' r : Text} {c : Char} (h : skipGap cs = c :: r) (h' : skipGap cs' = c :: r)
    (hs : d.step (cs.head?.any isGap) c r = d.step (cs'.head?.any isGap) c r) :
    d.scan cs = d.scan cs' := by
  cases hstep : d.step (cs.head?.any isGap) c r with
  | error e => rw [scan_error h hstep, scan_error h' (hs ▸ hstep)]
  | ok p => rw [scan_step h hstep, scan_step h' (hs ▸ hstep)]

/-- White space only matters between words. -/
theorem step_gap (hd : d.phrase = []) (gap gap' : Bool) (c : Char) (r : Text) :
    d.step gap c r = d.step gap' c r := by
  have hjoin (g : Bool) : d.joined g = [] := by simp [joined, hd]
  unfold step
  simp only [hjoin]

theorem scan_gap {c : Char} (hd : d.phrase = []) (hc : isGap c = true) (cs : Text) :
    d.scan (c :: cs) = d.scan cs := by
  have hskip : skipGap (c :: cs) = skipGap cs := List.dropWhile_cons_of_pos hc
  cases h : skipGap cs with
  | nil => rw [scan_end h, scan_end (hskip.trans h)]
  | cons c' r => exact scan_congr (hskip.trans h) h (step_gap hd _ _ c' r)

/-! ## Separators -/

theorem scan_comma (r : Text) : d.scan (',' :: r) = d.close.clear.scan r := scan_cons rfl rfl

theorem scan_semicolon (r : Text) : d.scan (';' :: r) = (d.close.push Address.groupEnd 0).scan r :=
  scan_cons rfl rfl

theorem scan_colon (r : Text) : d.scan (':' :: r) = (d.push (Address.groupMarker d.phrase) 0).scan r :=
  scan_cons rfl rfl

/-! ## Words and quoted strings -/

theorem step_word {c : Char} {r t : Text} (gap : Bool) (hc : IsWordStart c)
    (hr : readToken (c :: r) = .ok (t, rest)) :
    d.step gap c r = .ok ({ d with phrase := d.joined gap ++ t }, rest) :=
  step_eq_ok_iff.2 (.word hc hr)

theorem joined_false : d.joined false = d.phrase := by simp [joined]

theorem scan_word {w t : Text} (hne : w ≠ []) (hw : ∀ c ∈ w, isOrdinary c = true) (ht : Stops t) :
    d.scan (w ++ t) = { d with phrase := d.phrase ++ w }.scan t := by
  have hread := Address.readToken_run hne hw ht
  obtain ⟨c, w, rfl⟩ := List.exists_cons_of_ne_nil hne
  have hc := hw c List.mem_cons_self
  have hstep := step_word (d := d) false (.of_isOrdinary hc) hread
  rw [joined_false] at hstep
  exact scan_cons (isOrdinary_iff.1 hc).1 hstep

theorem skipGap_gaps {gaps r : Text} {c : Char} (hgaps : ∀ g ∈ gaps, isGap g = true)
    (hc : isGap c = false) : skipGap (gaps ++ c :: r) = c :: r := by
  rw [skipGap, List.dropWhile_append_of_pos hgaps]
  exact skipGap_cons hc r

/-- White space before a word becomes one space. -/
theorem scan_gaps_word {gaps w t : Text} (hgaps : ∀ g ∈ gaps, isGap g = true) (hsome : gaps ≠ [])
    (hd : d.phrase ≠ []) (hne : w ≠ []) (hw : ∀ c ∈ w, isOrdinary c = true) (ht : Stops t) :
    d.scan (gaps ++ (w ++ t)) = { d with phrase := d.phrase ++ ' ' :: w }.scan t := by
  have hread := Address.readToken_run hne hw ht
  obtain ⟨c, w, rfl⟩ := List.exists_cons_of_ne_nil hne
  have hc := hw c List.mem_cons_self
  have hskip : skipGap (gaps ++ (c :: w ++ t)) = c :: (w ++ t) :=
    skipGap_gaps hgaps (isOrdinary_iff.1 hc).1
  have hgap : (gaps ++ (c :: w ++ t)).head?.any isGap = true := by
    obtain ⟨g, gaps, rfl⟩ := List.exists_cons_of_ne_nil hsome
    exact hgaps g List.mem_cons_self
  have hjoin : d.joined true = d.phrase ++ [' '] := by simp [joined, hd]
  have hstep := step_word (d := d) true (.of_isOrdinary hc) hread
  rw [hjoin, List.append_assoc, List.singleton_append, ← hgap] at hstep
  exact scan_step hskip hstep

theorem scan_space_word {w t : Text} (hd : d.phrase ≠ []) (hne : w ≠ [])
    (hw : ∀ c ∈ w, isOrdinary c = true) (ht : Stops t) :
    d.scan (' ' :: (w ++ t)) = { d with phrase := d.phrase ++ ' ' :: w }.scan t :=
  scan_gaps_word (List.forall_mem_singleton.2 rfl) (List.cons_ne_nil ' ' []) hd hne hw ht

theorem scan_special {c : Char} (hspecial : isSpecial c = true) (hc : IsWordStart c) (r : Text) :
    d.scan (c :: r) = { d with phrase := d.phrase ++ [c] }.scan r := by
  have hparen : c ≠ '(' := by
    rintro rfl
    exact hc (by decide)
  have hquote : c ≠ '"' := by
    rintro rfl
    exact hc (by decide)
  have hstep := step_word (d := d) false hc (Address.readToken_special hspecial hparen hquote r)
  rw [joined_false] at hstep
  exact scan_cons (isGap_of_isSpecial hspecial) hstep

/-- Text without any character that has a meaning between entries is taken up as it stands. -/
theorem scan_text {t : Text} (ht : ∀ c ∈ t, isGap c = false ∧ IsWordStart c) (hrest : Stops rest) :
    d.scan (t ++ rest) = { d with phrase := d.phrase ++ t }.scan rest := by
  induction t using Address.runs_induction generalizing d with
  | nil => rw [List.nil_append, List.append_nil]
  | run w t hne hw hstop ih =>
    have ht' : ∀ c ∈ t, isGap c = false ∧ IsWordStart c := fun c hc => ht c (List.mem_append_right w hc)
    rw [List.append_assoc, scan_word hne hw (hstop.append hrest), ih ht', List.append_assoc]
  | char c t hc ih =>
    have ht' : ∀ d ∈ t, isGap d = false ∧ IsWordStart d := fun d hd => ht d (List.mem_cons_of_mem c hd)
    obtain ⟨hgap, hstart⟩ := ht c List.mem_cons_self
    have hspecial : isSpecial c = true := by simpa [isOrdinary, hgap] using hc
    rw [List.cons_append, scan_special hspecial hstart, ih ht', List.append_assoc,
      List.singleton_append]

/-- A quoted string keeps its quotes only before an at sign. -/
theorem scan_joined_quoted (s r : Text) :
    d.scan (Address.quoted s ++ r) =
      { d with phrase := d.joined true ++ if r.head? == some '@' then Address.quoted s else s }.scan r := by
  rw [Address.quoted_append]
  refine scan_cons rfl ?_
  simp only [step, Address.readQuoted_escape]

theorem scan_quoted (hd : d.phrase = []) (s r : Text) :
    d.scan (Address.quoted s ++ r) =
      { d with phrase := if r.head? == some '@' then Address.quoted s else s }.scan r := by
  have hjoin : d.joined true = [] := by simp [joined, hd]
  rw [scan_joined_quoted, hjoin, List.nil_append]

end Draft
end AddressList
end Recipients
