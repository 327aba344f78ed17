import Recipients.Proofs.AddressList.Outcome

/-
  Free text without structural characters, a row of words. It is read as the address text in which commas
  stand between the words: the two readings give the same list and the same count, and each word is in
  there with what it yields on its own, which is at most one mailbox without a name
  (`parseFreeOnto_words`). Carriage returns and line feeds do not part words; they are left out of the
  mailbox.
-/

namespace Recipients

open AddressList (structural)

namespace Address

/-- The characters of a text that are not white space. -/
def letters (t : Text) : Text := t.filter fun c => !isGap c

theorem letters_append (s t : Text) : letters (s ++ t) = letters s ++ letters t := List.filter_append ..

theorem letters_skipGap (t : Text) : letters (skipGap t) = letters t := by
  induction t with
  | nil => rfl
  | cons c t ih =>
    cases hc : isGap c with
    | false => rw [skipGap_cons hc]
    | true =>
      have hskip : skipGap (c :: t) = skipGap t := List.dropWhile_cons_of_pos hc
      have hletters : letters (c :: t) = letters t := List.filter_cons_of_neg (by simp [hc])
      rw [hskip, hletters, ih]

variable {cs : Text}

/-- Of text without structural characters a part takes all letters up to where it stops. -/
theorem letters_of_readPart {allowed text comment : Text} {p : Part}
    (hcs : ∀ c ∈ cs, structural.contains c = false) (h : readPart allowed text comment cs = .ok p) :
    p.comment = comment ∧ p.rest <:+ cs ∧ p.text ++ letters p.rest = text ++ letters cs := by
  fun_induction readPart allowed text comment cs with
  | case1 text comment cs hs =>
    cases h
    refine ⟨rfl, List.nil_suffix, ?_⟩
    rw [← letters_skipGap cs, hs]
  | case2 text comment cs c r hs =>
    cases h
    refine ⟨rfl, suffix_of_skipGap hs, ?_⟩
    rw [← letters_skipGap cs, hs]
  | case3 _ _ _ _ _ _ hs | case4 _ _ _ _ _ _ _ hs | case5 _ _ _ _ _ _ hs | case6 _ _ _ _ _ _ _ hs =>
    cases hcs _ ((suffix_of_skipGap hs).subset List.mem_cons_self)
  | case7 text comment cs c r hs _ _ _ hspecial ih =>
    have hrest : r <:+ cs := (List.suffix_cons c r).trans (suffix_of_skipGap hs)
    obtain ⟨hcomment, hsuffix, hletters⟩ := ih (fun x hx => hcs x (hrest.subset hx)) h
    refine ⟨hcomment, hsuffix.trans hrest, ?_⟩
    have hc : letters (c :: r) = c :: letters r :=
      List.filter_cons_of_pos (by simp [isGap_of_isSpecial hspecial])
    rw [hletters, ← letters_skipGap cs, hs, hc, List.append_assoc, List.singleton_append]
  | case8 text comment cs c r hs _ _ _ hspecial ih =>
    have hafter : r.dropWhile isOrdinary <:+ cs :=
      (List.dropWhile_suffix _).trans ((List.suffix_cons c r).trans (suffix_of_skipGap hs))
    obtain ⟨hcomment, hsuffix, hletters⟩ := ih (fun x hx => hcs x (hafter.subset hx)) h
    refine ⟨hcomment, hsuffix.trans hafter, ?_⟩
    obtain ⟨w, u, hcr, -, hw, -, hrun, hmore⟩ :=
      exists_run (isOrdinary_iff.2 ⟨skipGap_head hs, by simpa using hspecial⟩) r
    have hwletters : letters w = w :=
      List.filter_eq_self.2 fun c hc => by simp [(isOrdinary_iff.1 (hw c hc)).1]
    rw [hletters, ← hrun, ← hmore, ← letters_skipGap cs, hs, hcr, letters_append, hwletters,
      List.append_assoc]

theorem letters_of_readMailbox {comment : Text} {p : Part}
    (hcs : ∀ c ∈ cs, structural.contains c = false) (h : readMailbox comment cs = .ok p) :
    p.comment = comment ∧ p.rest <:+ cs ∧ p.text ++ letters p.rest = letters cs := by
  unfold readMailbox at h
  split at h
  · rename_i text c rest hlocal
    obtain ⟨hcomment, hsuffix, hletters⟩ := letters_of_readPart hcs hlocal
    have hrest : rest <:+ cs := (List.suffix_cons '@' rest).trans hsuffix
    obtain ⟨hcomment', hsuffix', hletters'⟩ :=
      letters_of_readPart (fun x hx => hcs x (hrest.subset hx)) h
    refine ⟨hcomment'.trans hcomment, hsuffix'.trans hrest, ?_⟩
    have hat : letters ('@' :: rest) = '@' :: letters rest := List.filter_cons_of_pos (by decide)
    rw [hat] at hletters
    rw [hletters', List.append_assoc, List.singleton_append]
    exact hletters
  · exact letters_of_readPart hcs h

/-- A bare entry of such text is a mailbox with all its letters. -/
theorem bareEntry?_plain {a : Address} (hcs : ∀ c ∈ cs, structural.contains c = false)
    (h : bareEntry? cs [] = some a) : a = .ofMailbox (letters cs) := by
  rw [bareEntry?_eq_some_iff, readBare] at h
  split at h
  · rename_i text comment rest hmail
    obtain ⟨rfl, hsuffix, hletters⟩ := letters_of_readMailbox hcs hmail
    have hplain : ∀ c ∈ rest, structural.contains c = false := fun c hc => hcs c (hsuffix.subset hc)
    split at h
    · cases h
      rw [← hletters]
      exact congrArg ofMailbox (List.append_nil text).symm
    · cases hplain ',' List.mem_cons_self
    · cases hplain ';' List.mem_cons_self
    · cases h
  · cases h

end Address

namespace AddressList

open Address (isGap skipGap letters letters_append letters_skipGap bareEntry?
  suffix_of_skipGap)

namespace Draft

variable {d : Draft} {cs : Text}

theorem letters_joined (d : Draft) (spaced : Bool) : letters (d.joined spaced) = letters d.phrase := by
  unfold joined
  split
  · rw [letters_append]
    exact List.append_nil _
  · rfl

theorem plain_joined (hd : ∀ c ∈ d.phrase, structural.contains c = false) (spaced : Bool) :
    ∀ c ∈ d.joined spaced, structural.contains c = false := by
  unfold joined
  split
  · intro c hc
    rcases List.mem_append.1 hc with hc | hc
    · exact hd c hc
    · rw [List.mem_singleton.1 hc]
      decide
  · exact hd

/-- Plain text is collected, with all its letters and whatever entries there are. -/
theorem exists_scan_plain (hcs : ∀ c ∈ cs, structural.contains c = false)
    (hd : ∀ c ∈ d.phrase, structural.contains c = false) :
    ∃ phrase, letters phrase = letters d.phrase ++ letters cs ∧
      (∀ c ∈ phrase, structural.contains c = false) ∧
      ∀ d' : Draft, d'.phrase = d.phrase → d'.scan cs = ({ d' with phrase }.close, none) := by
  fun_induction scan d cs with
  | case1 d cs hs =>
    refine ⟨d.phrase, ?_, hd, ?_⟩
    · rw [← letters_skipGap cs, hs]
      exact (List.append_nil _).symm
    · rintro d' hd'
      rw [scan_end hs, ← hd']
  | case2 d cs c r hs e hstep =>
    obtain ⟨t, rest, -, -, hword⟩ := step_plain_skipGap hcs hs
    rw [hword] at hstep
    cases hstep
  | case3 d cs c r hs d₁ rest hstep ih =>
    obtain ⟨t, rest', hcr, hrest, hword⟩ := step_plain_skipGap hcs hs
    rw [hword] at hstep
    cases hstep
    have ht : ∀ x ∈ t, structural.contains x = false := fun x hx =>
      hcs x ((suffix_of_skipGap hs).subset (hcr ▸ List.mem_append_left rest hx))
    have htletters : letters t ++ letters rest = letters cs := by
      rw [← letters_append, ← hcr, ← hs, letters_skipGap]
    obtain ⟨phrase, hletters, hplain, hscan⟩ := ih hrest fun x hx =>
      (List.mem_append.1 hx).elim (plain_joined hd _ x) (ht x)
    refine ⟨phrase, ?_, hplain, fun d' hd' => ?_⟩
    · rw [hletters, letters_append, letters_joined, List.append_assoc, htletters]
    · have hjoined (spaced : Bool) : d'.joined spaced = d.joined spaced := by rw [joined, joined, hd']
      rw [scan_step hs (hword d' _), hjoined]
      exact hscan _ rfl

theorem endsEscaped_plain (hcs : ∀ c ∈ cs, structural.contains c = false) :
    d.endsEscaped cs = false := by
  fun_induction endsEscaped d cs with
  | case1 | case3 => rfl
  | case2 d cs c r hs hescape =>
    have hc := hcs c ((suffix_of_skipGap hs).subset List.mem_cons_self)
    rw [hescape.1] at hc
    cases hc
  | case4 d cs c r hs _ d₁ rest hstep ih =>
    obtain ⟨t, rest', -, hrest, hword⟩ := step_plain_skipGap hcs hs
    rw [hword] at hstep
    cases hstep
    exact ih hrest

end Draft

/-! ## Words -/

/-- The entry that a word yields on its own. -/
def entryOfWord? (w : Text) : Option Address := (parseOnto [] w).1.head?

variable {w t : Text} {ws : List Text} {d : Draft}

/-- A word yields at most one entry, the same one behind any others. -/
theorem exists_entryOfWord? (hw : ∀ c ∈ w, structural.contains c = false) :
    ∃ e : Option Address, (∀ a ∈ e, a = .ofMailbox (letters w)) ∧
      ∀ d : Draft, d.phrase = [] → d.comment = [] → ∃ d', d.scan w = (d', none) ∧
        d'.entries = d.entries ++ e.toList ∧ d'.count = d.count + e.toList.length := by
  obtain ⟨phrase, hletters, hplain, hscan⟩ :=
    Draft.exists_scan_plain (d := { entries := [] }) hw nofun
  by_cases hempty : phrase = []
  · refine ⟨none, nofun, fun d hd hcomment => ⟨_, hscan d hd, ?_⟩⟩
    simp [Draft.close, hempty, hcomment]
  · refine ⟨ bareEntry? phrase [], fun a ha => ?_, fun d hd hcomment => ⟨_, hscan d hd, ?_⟩⟩
    · rw [Address.bareEntry?_plain hplain ha, hletters]
      rfl
    · cases hbare : bareEntry? phrase [] <;> simp [Draft.close, hempty, hcomment, hbare]

theorem entryOfWord?_spec (hw : ∀ c ∈ w, structural.contains c = false) :
    (∀ a ∈ entryOfWord? w, a = .ofMailbox (letters w)) ∧
      ∀ d : Draft, d.phrase = [] → d.comment = [] → ∃ d', d.scan w = (d', none) ∧
        d'.entries = d.entries ++ (entryOfWord? w).toList ∧
        d'.count = d.count + (entryOfWord? w).toList.length := by
  obtain ⟨e, hentry, hscan⟩ := exists_entryOfWord? hw
  obtain ⟨d', hown, hentries, -⟩ := hscan { entries := [] } rfl rfl
  have he : entryOfWord? w = e := by
    rw [entryOfWord?, parseOnto, hown]
    show d'.entries.head? = e
    rw [hentries, List.nil_append]
    cases e <;> rfl
  rw [he]
  exact ⟨hentry, hscan⟩

theorem parseOnto_word (hw : ∀ c ∈ w, structural.contains c = false) (l : AddressList) :
    parseOnto l w = (l ++ (entryOfWord? w).toList, .ok (entryOfWord? w).toList.length) := by
  obtain ⟨d, hscan, hentries, hcount⟩ := (entryOfWord?_spec hw).2 { entries := l } rfl rfl
  exact parseOnto_eq_ok_iff.2 ⟨d, hscan, hentries, hcount.trans (Nat.zero_add _)⟩

theorem filterMap_entryOfWord?_cons (w : Text) (ws : List Text) :
    (w :: ws).filterMap entryOfWord? = (entryOfWord? w).toList ++ ws.filterMap entryOfWord? := by
  cases h : entryOfWord? w <;> simp [h]

/-- One word after the other. -/
theorem parseWordsOnto_plain (hws : ∀ w ∈ ws, ∀ c ∈ w, structural.contains c = false)
    (l : AddressList) (n : Nat) :
    parseWordsOnto l n ws =
      (l ++ ws.filterMap entryOfWord?, .ok (n + (ws.filterMap entryOfWord?).length)) := by
  induction ws generalizing l n with
  | nil => simp [parseWordsOnto]
  | cons w ws ih =>
    obtain ⟨hw, hws⟩ := List.forall_mem_cons.1 hws
    rw [parseWordsOnto, parseOnto_word hw l, filterMap_entryOfWord?_cons]
    simp only [ih hws, List.append_assoc, List.length_append, Nat.add_assoc]

/-- All words at once, with commas between them. -/
theorem exists_scan_join (hws : ∀ w ∈ ws, ∀ c ∈ w, structural.contains c = false)
    (hphrase : d.phrase = []) (hcomment : d.comment = []) :
    ∃ d', d.scan (Text.join [',', ' '] ws) = (d', none) ∧
      d'.entries = d.entries ++ ws.filterMap entryOfWord? ∧
      d'.count = d.count + (ws.filterMap entryOfWord?).length := by
  induction ws generalizing d with
  | nil =>
    refine ⟨d, ?_, (List.append_nil _).symm, rfl⟩
    rw [Text.join_nil, Draft.scan_nil]
    simp [Draft.close, hphrase, hcomment]
  | cons w ws ih =>
    obtain ⟨hw, hws⟩ := List.forall_mem_cons.1 hws
    obtain ⟨d₁, hscan, hentries, hcount⟩ := (entryOfWord?_spec hw).2 d hphrase hcomment
    rw [filterMap_entryOfWord?_cons]
    cases ws with
    | nil =>
      rw [Text.join_cons, List.flatMap_nil, List.append_nil]
      exact ⟨d₁, hscan, by simpa using hentries, by simpa using hcount⟩
    | cons v ws =>
      obtain ⟨d₂, hscan₂, hentries₂, hcount₂⟩ := ih (d := d₁.clear) hws rfl rfl
      refine ⟨d₂, ?_, ?_, ?_⟩
      · rw [Text.join_cons_cons, List.cons_append, List.singleton_append,
          Draft.scan_append_comma hscan (Draft.endsEscaped_plain hw), Draft.scan_gap rfl rfl, hscan₂]
      · rw [hentries₂, Draft.clear, hentries, List.append_assoc]
      · rw [hcount₂, Draft.clear, hcount, List.length_append, Nat.add_assoc]

/-- Free text without structural characters yields what its words yield with commas between them. Each
    word adds what it yields on its own: at most one entry, which is all of the word but line ends and has
    no name. -/
theorem parseFreeOnto_words (ht : ∀ c ∈ t, c ∉ structural) (l : AddressList) :
    let words := Text.stretches (fun c => c == ' ' || c == '\t') t
    let entries := words.filterMap entryOfWord?
    parseFreeOnto l t = (l ++ entries, .ok entries.length) ∧
    parseOnto l (Text.join [',', ' '] words) = (l ++ entries, .ok entries.length) ∧
    (∀ w ∈ words,
      parseOnto [] w = ((entryOfWord? w).toList, .ok (entryOfWord? w).toList.length) ∧
        ∀ a ∈ entryOfWord? w, a = .ofMailbox (letters w)) ∧
    ∀ a ∈ entries, a.personal = none := by
  intro words entries
  have hplain : ∀ c ∈ t, structural.contains c = false := fun c hc => by simpa using ht c hc
  have hwords : ∀ w ∈ words, ∀ c ∈ w, structural.contains c = false := fun w hw c hc =>
    hplain c ((Text.mem_stretches hw).2 c hc).1
  refine ⟨?_, ?_, fun w hw => ?_, fun a ha => ?_⟩
  · have hnone : (t.any fun c => structural.contains c) = false :=
      List.any_eq_false.2 fun c hc => Bool.eq_false_iff.1 (hplain c hc)
    rw [parseFreeOnto, hnone, parseWordsOnto_plain hwords l 0, Nat.zero_add]
    rfl
  · obtain ⟨d, hscan, hentries, hcount⟩ := exists_scan_join (d := { entries := l }) hwords rfl rfl
    exact parseOnto_eq_ok_iff.2 ⟨d, hscan, hentries, hcount.trans (Nat.zero_add _)⟩
  · exact ⟨parseOnto_word (hwords w hw) [], (entryOfWord?_spec (hwords w hw)).1⟩
  · obtain ⟨w, hw, ha⟩ := List.mem_filterMap.1 ha
    rw [(entryOfWord?_spec (hwords w hw)).1 a ha]
    rfl

/-- A word with a line end in it, and one that cannot be read. -/
theorem parseFreeOnto_words_folded :
    let t := "a@x\tb\r\n.c [d  e@[1]".toList
    let entries := [Address.ofMailbox "a@x".toList, .ofMailbox "b.c".toList, .ofMailbox "e@[1]".toList]
    (∀ c ∈ t, c ∉ structural) ∧ parseFreeOnto [] t = (entries, .ok 3) ∧
      parseOnto [] "a@x, b\r\n.c, [d, e@[1]".toList = (entries, .ok 3) := by
  intro t entries
  have ht : ∀ c ∈ t, c ∉ structural := by simp [t, structural]
  have hwords : Text.stretches (fun c => c == ' ' || c == '\t') t =
      ["a@x".toList, "b\r\n.c".toList, "[d".toList, "e@[1]".toList] := by decide
  have hentries : ["a@x".toList, "b\r\n.c".toList, "[d".toList, "e@[1]".toList].filterMap entryOfWord? =
      entries := by decide +kernel
  obtain ⟨hfree, hjoined, -, -⟩ := parseFreeOnto_words ht []
  rw [hwords, hentries] at hfree hjoined
  exact ⟨ht, hfree, hjoined⟩

end AddressList
end Recipients
