import Recipients.Proofs.Address.Reading

/-
  Mailboxes as the reader builds them (`built_of_readMailbox`): a local part and perhaps a domain, each
  of them characters taken as they stand and, in the local part, quoted strings. What the reader
  builds it reads back unchanged where a mailbox ends behind it (`readMailbox_built`); between angle
  brackets this fails only for the empty mailbox and for one that begins with an at sign, which opens
  a route there.
-/

namespace Recipients
namespace Address

/-! ## Parts -/

/-- Characters that a part takes and, where quotes are allowed, quoted strings. -/
inductive PartOf (allowed : Text) : Text → Prop
  | nil : PartOf allowed []
  | char {c : Char} {r : Text} (hc : IsTaken allowed c) (hr : PartOf allowed r) : PartOf allowed (c :: r)
  | quote (hin : '"' ∈ allowed) (s : Text) {r : Text} (hr : PartOf allowed r) :
      PartOf allowed (quoted s ++ r)

variable {allowed t u : Text}

theorem PartOf.append (ht : PartOf allowed t) (hu : PartOf allowed u) : PartOf allowed (t ++ u) := by
  induction ht with
  | nil => exact hu
  | char hc _ ih => exact .char hc ih
  | quote hin s _ ih =>
    rw [List.append_assoc]
    exact .quote hin s ih

theorem PartOf.quoted (hin : '"' ∈ allowed) (s : Text) : PartOf allowed (quoted s) := by
  rw [← List.append_nil (Address.quoted s)]
  exact .quote hin s .nil

theorem PartOf.of_forall (ht : ∀ c ∈ t, IsTaken allowed c) : PartOf allowed t := by
  induction t with
  | nil => exact .nil
  | cons c r ih =>
    exact .char (ht c List.mem_cons_self) (ih fun d hd => ht d (List.mem_cons_of_mem c hd))

theorem PartOf.mono {allowed' : Text} (h : allowed ⊆ allowed') (ht : PartOf allowed t) :
    PartOf allowed' t := by
  induction ht with
  | nil => exact .nil
  | char hc _ ih => exact .char (hc.imp_right fun hc => ⟨hc.1, h hc.2.1, hc.2.2⟩) ih
  | quote hin s _ ih => exact .quote (h hin) s ih

/-- A part that is read on is what was read before and a part behind it. -/
theorem readPart_grows {text comment cs : Text} {p : Part} (h : readPart allowed text comment cs = .ok p) :
    ∃ u, PartOf allowed u ∧ p.text = text ++ u := by
  fun_induction readPart allowed text comment cs with
  | case1 | case2 =>
    rw [← Except.ok.inj h]
    exact ⟨[], .nil, (List.append_nil _).symm⟩
  | case3 | case5 => cases h
  | case4 text comment cs r body rest hc hs _ ih => exact ih h
  | case6 text comment cs r body rest hc hs hin _ ih =>
    obtain ⟨u, hu, hp⟩ := ih h
    exact ⟨quoted body ++ u, .quote (mem_of_not_stop rfl hin) body hu, by rw [hp, List.append_assoc]⟩
  | case7 text comment cs c r hs hin hparen hquote hspecial ih =>
    obtain ⟨u, hu, hp⟩ := ih h
    have hc : IsTaken allowed c := .inr ⟨hspecial, mem_of_not_stop hspecial hin, hparen, hquote⟩
    exact ⟨c :: u, .char hc hu, by rw [hp, List.append_assoc, List.singleton_append]⟩
  | case8 text comment cs c r hs hin hparen hquote hspecial ih =>
    obtain ⟨u, hu, hp⟩ := ih h
    have hrun : ∀ d ∈ (c :: r).takeWhile isOrdinary, IsTaken allowed d :=
      fun d hd => .inl (List.all_eq_true.1 List.all_takeWhile d hd)
    exact ⟨_, (PartOf.of_forall hrun).append hu, by rw [hp, List.append_assoc]⟩

/-- A character that is taken is taken on its own, also at the head of a run. -/
theorem readPart_char {c : Char} (hc : IsTaken allowed c) (text comment r : Text) :
    readPart allowed text comment (c :: r) = readPart allowed (text ++ [c]) comment r := by
  rcases hc with ho | ⟨hspecial, hin, hparen, hquote⟩
  · obtain ⟨w, u, hsplit, hne, hw, hu, -, -⟩ := exists_run ho r
    obtain ⟨d, w, rfl⟩ := List.exists_cons_of_ne_nil hne
    obtain ⟨rfl, hr⟩ := List.cons.inj hsplit
    rw [hsplit, hr, readPart_run hne hw hu]
    show _ = readPart allowed (text ++ [c]) comment (w ++ u)
    by_cases hnil : w = []
    · rw [hnil, List.nil_append]
    · rw [readPart_run hnil (fun d hd => hw d (List.mem_cons_of_mem c hd)) hu, List.append_assoc,
        List.singleton_append]
  · exact readPart_special hspecial hin hparen hquote text comment r

theorem readPart_partOf (ht : PartOf allowed t) (text comment rest : Text) :
    readPart allowed text comment (t ++ rest) = readPart allowed (text ++ t) comment rest := by
  induction ht generalizing text with
  | nil => rw [List.nil_append, List.append_nil]
  | char hc _ ih => rw [List.cons_append, readPart_char hc, ih, List.append_assoc, List.singleton_append]
  | quote hin s _ ih => rw [List.append_assoc, readPart_quoted hin, ih, List.append_assoc]

/-! ## Mailboxes -/

/-- A local part, or a local part and a domain. -/
inductive Built : Text → Prop
  | bare {t : Text} (ht : PartOf localAllowed t) : Built t
  | qualified {t d : Text} (ht : PartOf localAllowed t) (hd : PartOf domainAllowed d) : Built (t ++ '@' :: d)

theorem built_null : Built ['@'] := .qualified .nil .nil

theorem built_of_readMailbox {comment cs : Text} {p : Part} (h : readMailbox comment cs = .ok p) :
    Built p.text := by
  unfold readMailbox at h
  split at h
  · rename_i text comment' rest hlocal
    obtain ⟨t, ht, htext⟩ := readPart_grows hlocal
    obtain ⟨d, hd, hp⟩ := readPart_grows h
    rw [List.nil_append] at htext
    rw [hp, show text = t from htext, List.append_assoc, List.singleton_append]
    exact .qualified ht hd
  · obtain ⟨t, ht, hp⟩ := readPart_grows h
    rw [hp, List.nil_append]
    exact .bare ht

variable {m rest : Text}

theorem readMailbox_built (hm : Built m) (hrest : Ends rest) (comment : Text) :
    readMailbox comment (m ++ rest) = .ok ⟨m, comment, rest⟩ := by
  unfold readMailbox
  cases hm with
  | bare ht =>
    rw [readPart_partOf ht, List.nil_append,
      readPart_end fun c hc => ⟨(hrest c hc).1, (hrest c hc).2.2.1⟩]
    split
    · rename_i h
      cases h
      exact absurd rfl (hrest '@' rfl).2.1
    · rfl
  | @qualified t d ht hd =>
    rw [List.append_assoc, readPart_partOf ht, List.nil_append, List.cons_append,
      readPart_stop (by decide) (by decide)]
    show readPart domainAllowed (t ++ ['@']) comment (d ++ rest) = _
    rw [readPart_partOf hd, readPart_end fun c hc => ⟨(hrest c hc).1, (hrest c hc).2.2.2⟩,
      List.append_assoc, List.singleton_append]

theorem bareEntry?_built (hm : Built m) : bareEntry? m [] = some { mailbox := some m } := by
  have hread := readMailbox_built hm ends_nil []
  rw [List.append_nil] at hread
  unfold bareEntry? readBare
  rw [hread]
  rfl

theorem IsTaken.isGap_eq_false {c : Char} (h : IsTaken allowed c) : isGap c = false := by
  rcases h with ho | ⟨hspecial, _⟩
  · exact (isOrdinary_iff.1 ho).1
  · exact isGap_of_isSpecial hspecial

theorem PartOf.head {c : Char} (h : PartOf allowed t) (hc : c ∈ t.head?) :
    IsTaken allowed c ∨ c = '"' := by
  cases h with
  | nil => cases hc
  | char htaken _ =>
    cases hc
    exact .inl htaken
  | quote hin s _ =>
    cases hc
    exact .inr rfl

theorem Built.head {c : Char} (h : Built m) (hc : c ∈ m.head?) : isGap c = false := by
  have hlocal {t : Text} (ht : PartOf localAllowed t) (hc : c ∈ t.head?) : isGap c = false := by
    rcases ht.head hc with htaken | rfl
    · exact htaken.isGap_eq_false
    · rfl
  cases h with
  | bare ht => exact hlocal ht hc
  | @qualified t d ht _ =>
    cases t with
    | nil =>
      cases hc
      rfl
    | cons => exact hlocal ht hc

theorem PartOf.head_ne_at (h : PartOf localAllowed t) : t.head? ≠ some '@' := by
  intro hc
  rcases h.head hc with htaken | hquote
  · revert htaken
    unfold IsTaken
    decide
  · revert hquote
    decide

theorem Built.domain_of_head {d : Text} (h : Built ('@' :: d)) : PartOf domainAllowed d := by
  generalize hm : '@' :: d = m at h
  cases h with
  | bare ht => exact absurd (hm ▸ rfl) ht.head_ne_at
  | @qualified t d' ht hd =>
    cases t with
    | nil =>
      cases hm
      exact hd
    | cons c t =>
      cases hm
      exact absurd rfl ht.head_ne_at

/-- A local part has dots and ordinary characters up to a backslash or to a quoted string, or to its
    end. -/
theorem PartOf.local_cases (h : PartOf localAllowed t) :
    (∀ c ∈ t, isOrdinary c = true ∨ c = '.') ∨
      ∃ p r, (∀ c ∈ p, isOrdinary c = true ∨ c = '.') ∧
        (t = p ++ '\\' :: r ∨ ∃ s, t = p ++ (Address.quoted s ++ r) ∧ PartOf localAllowed r) := by
  induction h with
  | nil => exact .inl fun _ h => (nomatch h)
  | quote _ s hr _ => exact .inr ⟨[], _, fun _ h => (nomatch h), .inr ⟨s, rfl, hr⟩⟩
  | @char c r hc _ ih =>
    have hkind : (isOrdinary c = true ∨ c = '.') ∨ c = '\\' := by
      rcases hc with ho | ⟨_, hin, hparen, hquote⟩
      · exact .inl (.inl ho)
      · simp only [localAllowed, List.mem_cons, List.not_mem_nil, or_false, hparen, hquote,
          false_or] at hin
        exact hin.imp_left .inr
    rcases hkind with hdots | rfl
    · rcases ih with hall | ⟨p, r', hp, hform⟩
      · exact .inl (List.forall_mem_cons.2 ⟨hdots, hall⟩)
      · refine .inr ⟨c :: p, r', List.forall_mem_cons.2 ⟨hdots, hp⟩, ?_⟩
        rcases hform with rfl | ⟨s, rfl, hr⟩
        · exact .inl rfl
        · exact .inr ⟨s, rfl, hr⟩
    · exact .inr ⟨[], r, fun _ h => (nomatch h), .inl rfl⟩

theorem PartOf.domain_cases (h : PartOf domainAllowed t) :
    IsDomainPart t ∨ ∃ p r, IsDomainPart p ∧ t = p ++ '\\' :: r := by
  induction h with
  | nil => exact .inl fun _ h => (nomatch h)
  | quote hin => exact absurd hin (by decide)
  | @char c r hc _ ih =>
    have hkind : (isOrdinary c = true ∨ c = '.' ∨ c = '[' ∨ c = ']') ∨ c = '\\' := by
      rcases hc with ho | ⟨_, hin, hparen, _⟩
      · exact .inl (.inl ho)
      · simp only [domainAllowed, List.mem_cons, List.not_mem_nil, or_false, hparen, false_or] at hin
        rcases hin with h | h | h | h
        · exact .inl (.inr (.inl h))
        · exact .inl (.inr (.inr (.inl h)))
        · exact .inl (.inr (.inr (.inr h)))
        · exact .inr h
    rcases hkind with hplain | rfl
    · rcases ih with hall | ⟨p, r', hp, rfl⟩
      · exact .inl (List.forall_mem_cons.2 ⟨hplain, hall⟩)
      · exact .inr ⟨c :: p, r', List.forall_mem_cons.2 ⟨hplain, hp⟩, rfl⟩
    · exact .inr ⟨[], r, fun _ h => (nomatch h), rfl⟩

/-! ## Angle brackets -/

/-- Between angle brackets a mailbox is read back, unless it is empty or begins with an at sign. -/
theorem readAngle_built (hm : Built m) (hne : m ≠ []) (hat : m.head? ≠ some '@') (name : Option Text)
    (rest : Text) :
    readAngle name [] (m ++ '>' :: rest) = .ok ({ personal := name, mailbox := some m }, rest) := by
  obtain ⟨c, r, rfl⟩ := List.exists_cons_of_ne_nil hne
  have hroute : skipRoute [] (c :: r ++ '>' :: rest) = .ok ([], c :: r ++ '>' :: rest) :=
    skipRoute_of_head (hm.head rfl) (fun h => hat (congrArg some h)) [] (r ++ '>' :: rest)
  exact readAngle_of_readMailbox hroute (readMailbox_built hm (ends_closing rest) []) name

theorem readAngle_null (name : Option Text) (rest : Text) :
    readAngle name [] ('>' :: rest) = .ok ({ personal := name, mailbox := some ['@'] }, rest) :=
  readAngle_of_readMailbox (skipRoute_of_head (by decide) (by decide) [] rest)
    (readMailbox_built (.bare .nil) (ends_closing rest) []) name

/-- An at sign at the head opens a route, which a closing bracket does not end. -/
theorem readAngle_of_head {d : Text} (hd : PartOf domainAllowed d) (name : Option Text) (rest : Text) :
    readAngle name [] ('@' :: (d ++ '>' :: rest)) = .error .badRoute := by
  have hpart : readPart routeAllowed [] [] (d ++ '>' :: rest) = .ok ⟨d, [], '>' :: rest⟩ := by
    rw [readPart_partOf (hd.mono (by decide)), readPart_stop (by decide) (by decide), List.nil_append]
  have hroute : readRoute [] ('@' :: (d ++ '>' :: rest)) = .ok ([], '>' :: rest) := by
    rw [readRoute, hpart]
    show readRoute [] ('>' :: rest) = _
    rw [readRoute]
    intro _ h
    cases h
  have hskip : skipRoute [] ('@' :: (d ++ '>' :: rest)) = .error .badRoute := by
    unfold skipRoute
    rw [skipGap_cons (by decide)]
    simp only [hroute]
    rfl
  unfold readAngle
  rw [hskip]

/-! ## Well-formed mailboxes -/

theorem IsLocalPart.taken {t : Text} (h : IsLocalPart t) : ∀ c ∈ t, IsTaken localAllowed c := by
  intro c hc
  rcases h.2 c hc with ho | rfl
  · exact .inl ho
  · exact .inr (by decide)

theorem IsDomainPart.taken {d : Text} (h : IsDomainPart d) : ∀ c ∈ d, IsTaken domainAllowed c := by
  intro c hc
  rcases h c hc with ho | rfl | rfl | rfl
  · exact .inl ho
  all_goals exact .inr (by decide)

theorem WellFormedMailbox.built (h : WellFormedMailbox m) : Built m := by
  cases h with
  | null => exact built_null
  | bare ht => exact .bare (.of_forall ht.taken)
  | qualified ht hd => exact .qualified (.of_forall ht.taken) (.of_forall hd.taken)
  | quotedLocal s hd => exact .qualified (.quoted (by decide) s) (.of_forall hd.taken)

theorem WellFormedMailbox.head (h : WellFormedMailbox m) (hm : m ≠ ['@']) :
    ∃ c r, m = c :: r ∧ c ≠ '@' := by
  have hlocal {t : Text} (ht : IsLocalPart t) : ∃ c r, t = c :: r ∧ c ≠ '@' := by
    obtain ⟨c, r, rfl⟩ := List.exists_cons_of_ne_nil ht.1
    refine ⟨c, r, rfl, ?_⟩
    rintro rfl
    exact absurd (ht.2 '@' List.mem_cons_self) (by decide)
  cases h with
  | null => exact absurd rfl hm
  | bare ht => exact hlocal ht
  | @qualified t d ht hd =>
    obtain ⟨c, r, rfl, hc⟩ := hlocal ht
    exact ⟨c, r ++ '@' :: d, rfl, hc⟩
  | quotedLocal s hd => exact ⟨'"', _, rfl, by decide⟩

end Address
end Recipients
