import Recipients.Proofs.AddressList.Scan

/-
  White space in names. A name with a special character is written in quotes and read back as it is.
  Any other is written without quotes, and its white space is read as spacing between words: it comes
  back with single spaces (`scan_name`).
-/

namespace Recipients
namespace Address

/-- The words of a name, which white space of header lines keeps apart. -/
def nameWords (n : Text) : List Text := Text.stretches isGap n

/-- A name with a special character as it is, any other with single spaces between its words. -/
def respaced (n : Text) : Text :=
  if n.any isSpecial then n else Text.join [' '] (nameWords n)

theorem nameWords_respaced (n : Text) : nameWords (respaced n) = nameWords n := by
  unfold respaced
  split
  · rfl
  · refine Text.stretches_join rfl fun w hw => ?_
    obtain ⟨hne, hall⟩ := Text.mem_stretches hw
    exact ⟨hne, fun c hc => (hall c hc).2⟩

theorem WellFormedName.respaced {n : Text} (h : WellFormedName n) : respaced n = n := by
  rcases h.2 with ⟨c, hc, hspecial⟩ | ⟨ws, _, hws, rfl⟩
  · exact if_pos (List.any_eq_true.2 ⟨c, hc, hspecial⟩)
  · unfold Address.respaced
    split
    · rfl
    · rw [nameWords, Text.stretches_join rfl hws]

/-- The entry with its name as it is read again, and as it is before its domain is converted. A name
    of white space only is lost. -/
def reread (a : Address) : Address :=
  { a with
    personal := a.personal.bind fun n => if (respaced n).isEmpty then none else some (respaced n)
    form := none }

theorem reread_eq_unconverted {a : Address} (h : ∀ n ∈ a.personal, WellFormedName n) :
    a.reread = a.unconverted := by
  cases hp : a.personal with
  | none => simp [reread, unconverted, hp]
  | some n =>
    have hn := h n hp
    simp [reread, unconverted, hp, hn.respaced, hn.1]

end Address

namespace AddressList
namespace Draft

open Address (isGap isSpecial isOrdinary isOrdinary_iff Stops stops_cons nameWords respaced)

variable {d : Draft} {rest gaps n : Text}

/-! ## White space in front -/

/-- White space in front of the text does not count, also after words. -/
def Detached (rest : Text) : Prop :=
  ∀ (d : Draft) (gaps : Text), (∀ c ∈ gaps, isGap c = true) → d.scan (gaps ++ rest) = d.scan rest

theorem detached_cons {c : Char} {r : Text} (hc : isGap c = false)
    (hstep : ∀ (d : Draft) (gap gap' : Bool), d.step gap c r = d.step gap' c r) : Detached (c :: r) :=
  fun d _ hgaps => scan_congr (skipGap_gaps hgaps hc) (Address.skipGap_cons hc r) (hstep d _ _)

theorem detached_colon (r : Text) : Detached (':' :: r) := detached_cons rfl fun _ _ _ => rfl

theorem detached_angle (r : Text) : Detached ('<' :: r) := detached_cons rfl fun _ _ _ => rfl

theorem Detached.space (h : Detached rest) : Detached (' ' :: rest) := by
  intro d gaps hgaps
  have hmore : ∀ c ∈ gaps ++ [' '], isGap c = true := by
    simpa [or_imp, forall_and] using ⟨hgaps, rfl⟩
  rw [List.append_cons, h d _ hmore]
  exact (h d [' '] (List.forall_mem_singleton.2 rfl)).symm

/-! ## Names -/

theorem nameWords_run {w t : Text} (hne : w ≠ []) (hw : ∀ c ∈ w, isOrdinary c = true)
    (hn : ∀ c ∈ t, isSpecial c = false) (ht : Stops t) : nameWords (w ++ t) = w :: nameWords t := by
  have hword : Text.stretches isGap w = [w] :=
    Text.stretches_of_forall hne fun c hc => (isOrdinary_iff.1 (hw c hc)).1
  cases t with
  | nil =>
    rw [List.append_nil]
    exact hword
  | cons c t =>
    have hgap : isGap c = true := by
      simpa [isOrdinary, hn c List.mem_cons_self] using stops_cons.1 ht
    rw [nameWords, Text.stretches_append hgap, hword, nameWords, Text.stretches_cons_sep hgap]
    rfl

/-- Words after those collected, each with a space before it. -/
theorem scan_spaced_more (hn : ∀ c ∈ n, isSpecial c = false) (hrest : Detached rest)
    (hstop : Stops rest) (hgaps : ∀ c ∈ gaps, isGap c = true) (hd : d.phrase ≠ [])
    (hfirst : Stops (gaps ++ n)) :
    d.scan (gaps ++ (n ++ rest)) =
      { d with phrase := d.phrase ++ (nameWords n).flatMap ([' '] ++ ·) }.scan rest := by
  induction n using Address.runs_induction generalizing d gaps with
  | nil =>
    rw [List.nil_append, hrest d gaps hgaps, show nameWords [] = [] from rfl, List.flatMap_nil,
      List.append_nil]
  | run w t hne hw ht ih =>
    have hn' : ∀ c ∈ t, isSpecial c = false := fun c hc => hn c (List.mem_append_right w hc)
    have hsome : gaps ≠ [] := by
      rintro rfl
      obtain ⟨c, w, rfl⟩ := List.exists_cons_of_ne_nil hne
      have hstop : isOrdinary c = false := stops_cons.1 hfirst
      rw [hw c List.mem_cons_self] at hstop
      cases hstop
    have hnone : ∀ c ∈ ([] : Text), isGap c = true := fun _ h => (nomatch h)
    have hmore := ih (d := { d with phrase := d.phrase ++ ' ' :: w }) hn' hnone (by simp) ht
    rw [List.nil_append] at hmore
    rw [List.append_assoc, scan_gaps_word hgaps hsome hd hne hw (ht.append hstop), hmore,
      nameWords_run hne hw hn' ht, List.flatMap_cons, List.append_assoc, List.singleton_append]
  | char c t hc ih =>
    have hgap : isGap c = true := by simpa [isOrdinary, hn c List.mem_cons_self] using hc
    have hgaps' : ∀ g ∈ gaps ++ [c], isGap g = true := by
      simpa [or_imp, forall_and] using ⟨hgaps, hgap⟩
    have hfirst' : Stops (gaps ++ [c] ++ t) := by
      rwa [List.append_assoc, List.singleton_append]
    have hmore := ih (fun g hg => hn g (List.mem_cons_of_mem c hg)) hgaps' hd hfirst'
    rw [List.append_assoc, List.singleton_append] at hmore
    rw [List.cons_append, hmore, nameWords, nameWords, Text.stretches_cons_sep hgap]

theorem scan_spaced (hn : ∀ c ∈ n, isSpecial c = false) (hrest : Detached rest)
    (hstop : Stops rest) (hd : d.phrase = []) :
    d.scan (n ++ rest) = { d with phrase := Text.join [' '] (nameWords n) }.scan rest := by
  induction n using Address.runs_induction with
  | nil => rw [List.nil_append, show nameWords [] = [] from rfl, Text.join_nil, ← hd]
  | run w t hne hw ht _ =>
    have hn' : ∀ c ∈ t, isSpecial c = false := fun c hc => hn c (List.mem_append_right w hc)
    have hnone : ∀ c ∈ ([] : Text), isGap c = true := fun _ h => (nomatch h)
    have hmore := scan_spaced_more (d := { d with phrase := w }) hn' hrest hstop hnone hne ht
    rw [List.append_assoc, scan_word hne hw (ht.append hstop), hd, List.nil_append,
      nameWords_run hne hw hn' ht, Text.join_cons]
    exact hmore
  | char c t hc ih =>
    have hgap : isGap c = true := by simpa [isOrdinary, hn c List.mem_cons_self] using hc
    rw [List.cons_append, scan_gap hd hgap, ih fun g hg => hn g (List.mem_cons_of_mem c hg),
      nameWords, nameWords, Text.stretches_cons_sep hgap]

/-- A name as it was written, in front of text that does not depend on white space before it. -/
theorem scan_name (n : Text) (hd : d.phrase = []) (hrest : Detached rest) (hstop : Stops rest)
    (hat : rest.head? ≠ some '@') :
    d.scan (Address.quotedFor Address.specials n ++ rest) = { d with phrase := respaced n }.scan rest := by
  by_cases hspecial : n.any isSpecial = true
  · have hquoted : Address.quotedFor Address.specials n = Address.quoted n := if_pos hspecial
    rw [hquoted, scan_quoted hd, if_neg (by simpa using hat), respaced, if_pos hspecial]
  · have hplain : Address.quotedFor Address.specials n = n := if_neg hspecial
    rw [hplain, respaced, if_neg hspecial]
    rw [Bool.not_eq_true, List.any_eq_false] at hspecial
    exact scan_spaced (fun c hc => Bool.eq_false_iff.2 (hspecial c hc)) hrest hstop hd

end Draft
end AddressList
end Recipients
