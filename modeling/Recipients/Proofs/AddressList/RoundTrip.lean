import Recipients.Proofs.Address.Built
import Recipients.Proofs.AddressList.Spacing

/-
  Reading what was written. A well-formed list is read back from its written form entry by entry
  (`parseOnto_write`); only the form of the domains is forgotten.

  A bare mailbox is not an entry yet when the reader has passed it: it stays in the draft until a
  separator, a terminator or the end of the input closes it. So the induction over the list does
  not compare drafts, but what they come to when they are closed.
-/

namespace Recipients
namespace AddressList

open Address (isGap isSpecial isOrdinary skipGap isOrdinary_iff Stops stops_cons stops_nil
  WellFormedName WellFormedMailbox IsLocalPart IsDomainPart)

/-! ## Written forms -/

theorem write_terminator {a : Address} (hg : a.group = false) (hm : a.mailbox = none)
    (hp : a.personal = none) : a.write = [';'] := by
  simp [Address.write, Address.render, Address.writtenName, hg, hm, hp]

theorem write_of_isGroupEnd {a : Address} (h : a.isGroupEnd = true) : a.write = [';'] := by
  simp only [Address.isGroupEnd, Bool.and_eq_true, Bool.not_eq_true', Option.isNone_iff_eq_none] at h
  exact write_terminator h.1.1 h.1.2 h.2

theorem write_marker {a : Address} (hg : a.group = true) (hm : a.mailbox = none)
    (hp : a.personal = none) : a.write = [':', ' '] := by
  simp [Address.write, Address.render, Address.writtenName, hg, hm, hp]

theorem writtenName_eq {a : Address} {n : Text} (hp : a.personal = some n) (hn : n ≠ []) :
    a.writtenName = some n := by
  rw [Address.writtenName, hp, Option.filter_some, if_pos (by simpa using hn)]

theorem write_named_marker {a : Address} {n : Text} (hg : a.group = true) (hm : a.mailbox = none)
    (hp : a.personal = some n) (hn : n ≠ []) :
    a.write = Address.quotedFor Address.specials n ++ [':', ' '] := by
  simp [Address.write, Address.render, writtenName_eq hp hn, hg, hm]

theorem write_recipient {a : Address} {m : Text} (hm : a.mailbox = some m)
    (hp : a.personal = none) : a.write = Address.writeMailbox id false m := by
  simp [Address.write, Address.render, Address.writtenName, hm, hp]

theorem write_named_recipient {a : Address} {m n : Text} (hm : a.mailbox = some m)
    (hp : a.personal = some n) (hn : n ≠ []) :
    a.write = Address.quotedFor Address.specials n ++ ' ' :: Address.writeMailbox id true m := by
  simp [Address.write, Address.render, writtenName_eq hp hn, hm]

/-- The null mailbox needs brackets even without a name. -/
theorem writeMailbox_null : Address.writeMailbox id false ['@'] = Address.writeMailbox id true ['@'] :=
  rfl

theorem writeMailbox_bare {m : Text} (hm : WellFormedMailbox m) (hnull : m ≠ ['@']) :
    Address.writeMailbox id false m = m := by
  obtain ⟨c, r, rfl, hat⟩ := hm.head hnull
  simp [Address.writeMailbox, hat]

/-- The separator after an entry, if there is one. -/
def separator (a : Address) (l : AddressList) : Text := if separates a l then [',', ' '] else []

theorem write_cons (a : Address) (l : AddressList) :
    write (a :: l) = a.write ++ (separator a l ++ write l) := by
  rw [← List.append_assoc]
  rfl

theorem write_singleton (a : Address) : write [a] = a.write := by
  rw [write_cons]
  exact List.append_nil _

/-- Without a separator, the list ends there or goes on with a terminator, or the entry is a
    marker. -/
theorem separator_cases (a : Address) (l : AddressList) :
    separator a l = [',', ' '] ∨ (separator a l = [] ∧
      (l = [] ∨ a.isGroupMarker = true ∨ ∃ t, write l = ';' :: t)) := by
  unfold separator
  cases l with
  | nil => exact .inr ⟨rfl, .inl rfl⟩
  | cons b l =>
    cases hm : a.isGroupMarker with
    | true => exact .inr ⟨by simp [separates, hm], .inr (.inl rfl)⟩
    | false =>
      cases hend : b.isGroupEnd with
      | false => exact .inl (by simp [separates, hm, hend])
      | true =>
        refine .inr ⟨by simp [separates, hend], .inr (.inr ⟨separator b l ++ write l, ?_⟩)⟩
        rw [write_cons, write_of_isGroupEnd hend]
        rfl

namespace Draft

variable {d d' : Draft} {rest : Text}

/-! ## Names and brackets -/

theorem skipGap_bracketed (m : Text) :
    skipGap (Address.writeMailbox id true m ++ rest) = Address.writeMailbox id true m ++ rest :=
  Address.skipGap_cons (by decide) _

/-- A mailbox in brackets that can be read there, after a name or without one. -/
theorem scan_angle {m cs : Text} (hd : d.comment = [])
    (hread : m ≠ ['@'] → ∀ name, Address.readAngle name [] (m ++ '>' :: rest) =
      .ok ({ personal := name, mailbox := some m }, rest))
    (hskip : skipGap cs = Address.writeMailbox id true m ++ rest) :
    d.scan cs = (d.push { personal := if d.phrase.isEmpty then none else some d.phrase,
                          mailbox := some m } 1).scan rest := by
  have hopen : Address.writeMailbox id true m ++ rest =
      '<' :: ((if m = ['@'] then [] else m) ++ '>' :: rest) := by
    simp [Address.writeMailbox]
  have hread' (name : Option Text) :
      Address.readAngle name d.comment ((if m = ['@'] then [] else m) ++ '>' :: rest) =
        .ok ({ personal := name, mailbox := some m }, rest) := by
    rw [hd]
    by_cases hnull : m = ['@']
    · rw [if_pos hnull, hnull]
      exact Address.readAngle_null name rest
    · rw [if_neg hnull]
      exact hread hnull name
  exact scan_step (hskip.trans hopen) (by simp only [step, hread'])

/-! ## Bare mailboxes -/

theorem isWordStart_of_dots {t : Text} (ht : ∀ c ∈ t, isOrdinary c = true ∨ c = '.') :
    ∀ c ∈ t, isGap c = false ∧ IsWordStart c := by
  intro c hc
  rcases ht c hc with ho | rfl
  · exact ⟨(isOrdinary_iff.1 ho).1, .of_isOrdinary ho⟩
  · exact ⟨rfl, by unfold IsWordStart; decide⟩

theorem isWordStart_of_isLocalPart {t : Text} (ht : IsLocalPart t) :
    ∀ c ∈ t, isGap c = false ∧ IsWordStart c :=
  isWordStart_of_dots ht.2

theorem isWordStart_of_isDomainPart {t : Text} (ht : IsDomainPart t) :
    ∀ c ∈ '@' :: t, isGap c = false ∧ IsWordStart c := by
  intro c hc
  rcases List.mem_cons.1 hc with rfl | hc
  · exact ⟨rfl, by unfold IsWordStart; decide⟩
  · rcases ht c hc with ho | rfl | rfl | rfl
    · exact ⟨(isOrdinary_iff.1 ho).1, .of_isOrdinary ho⟩
    all_goals exact ⟨rfl, by unfold IsWordStart; decide⟩

/-- A bare mailbox is collected as it stands. -/
theorem scan_mailbox {m : Text} (hm : WellFormedMailbox m) (hnull : m ≠ ['@']) (hd : d.phrase = [])
    (hrest : Stops rest) : d.scan (m ++ rest) = { d with phrase := m }.scan rest := by
  cases hm with
  | null => exact absurd rfl hnull
  | bare ht =>
    rw [scan_text (isWordStart_of_isLocalPart ht) hrest, hd, List.nil_append]
  | qualified ht hdom =>
    have hall := List.forall_mem_append.2 ⟨isWordStart_of_isLocalPart ht, isWordStart_of_isDomainPart hdom⟩
    rw [scan_text hall hrest, hd, List.nil_append]
  | quotedLocal s hdom =>
    rw [List.append_assoc, scan_quoted hd, List.cons_append, if_pos (by simp), ← List.cons_append,
      scan_text (isWordStart_of_isDomainPart hdom) hrest]

/-! ## What a draft comes to -/

/-- The draft closed: nothing is being collected. -/
def settled (d : Draft) : Draft := d.close.clear

theorem settled_bare {phrase : Text} {a : Address} (hne : phrase ≠ [])
    (hbare : Address.bareEntry? phrase [] = some a) (entries : AddressList) (count : Nat) :
    settled { entries, phrase, count } = { entries := entries ++ [a], count := count + 1 } := by
  have hempty : phrase.isEmpty = false := by simpa using hne
  simp only [settled, close, hempty, Bool.false_eq_true, ↓reduceIte, hbare, clear]

theorem settled_mailbox {m : Text} (hm : WellFormedMailbox m) (hnull : m ≠ ['@'])
    (entries : AddressList) (count : Nat) :
    settled { entries, phrase := m, count } =
      { entries := entries ++ [{ mailbox := some m }], count := count + 1 } := by
  obtain ⟨c, r, hcons, _⟩ := hm.head hnull
  exact settled_bare (hcons ▸ List.cons_ne_nil c r) (Address.bareEntry?_built hm.built) entries count

theorem scan_comma_settled (r : Text) : d.scan (',' :: ' ' :: r) = d.settled.scan r := by
  rw [scan_comma]
  exact scan_gap rfl rfl r

theorem scan_semicolon_settled (r : Text) : d.scan (';' :: r) = d.settled.scan (';' :: r) := by
  rw [scan_semicolon, scan_semicolon]
  rfl

theorem scan_gaps {gaps : Text} (hgaps : ∀ c ∈ gaps, isGap c = true) :
    d.scan gaps = (d.close, none) :=
  scan_end (by
    rw [← List.append_nil gaps, skipGap, List.dropWhile_append_of_pos hgaps]
    rfl)

/-! ## Entries -/

/-- Reading the written form of the entry in front of the rest leaves a draft that comes to one
    entry more; after a marker nothing is being collected. -/
def Enters (a : Address) (rest : Text) : Prop :=
  ∀ (entries : AddressList) (count : Nat),
    ∃ d : Draft, Draft.scan { entries, count } (a.write ++ rest) = d.scan rest ∧
      d.settled = { entries := entries ++ [a.unconverted],
                    count := count + if a.mailbox.isSome then 1 else 0 } ∧
      (a.isGroupMarker = true → d.settled = d)

/-- The same of an entry that is not read as it is, but as `b`. -/
def EntersAs (a b : Address) (rest : Text) : Prop :=
  ∀ (entries : AddressList) (count : Nat),
    ∃ d : Draft, Draft.scan { entries, count } (a.write ++ rest) = d.scan rest ∧
      d.settled = { entries := entries ++ [b], count := count + if a.mailbox.isSome then 1 else 0 } ∧
      (a.isGroupMarker = true → d.settled = d)

variable {a : Address}

theorem enters_iff : Enters a rest ↔ EntersAs a a.unconverted rest := Iff.rfl

theorem enters_terminator (hg : a.group = false) (hm : a.mailbox = none) (hp : a.personal = none)
    (rest : Text) : Enters a rest := by
  intro entries count
  rw [write_terminator hg hm hp, List.singleton_append, scan_semicolon]
  refine ⟨_, rfl, ?_, fun _ => rfl⟩
  simp [settled, close, clear, push, Address.unconverted, Address.groupEnd, hg, hm, hp]

theorem enters_marker (hg : a.group = true) (hm : a.mailbox = none) (hp : a.personal ≠ some [])
    (rest : Text) : EntersAs a a.reread rest := by
  intro entries count
  cases hname : a.personal with
  | none =>
    rw [write_marker hg hm hname, List.cons_append, scan_colon, List.singleton_append,
      scan_gap rfl rfl]
    refine ⟨_, rfl, ?_, fun _ => rfl⟩
    simp [settled, close, clear, push, Address.reread, Address.groupMarker, hg, hm, hname]
  | some n =>
    have hn : n ≠ [] := by
      rintro rfl
      exact hp hname
    rw [write_named_marker hg hm hname hn, List.append_assoc, List.cons_append,
      scan_name n rfl (detached_colon _) (stops_cons.2 (by decide)) (by simp), scan_colon,
      List.singleton_append, scan_gap rfl rfl]
    refine ⟨_, rfl, ?_, fun _ => rfl⟩
    simp [settled, close, clear, push, Address.reread, Address.groupMarker, hg, hm, hname]

/-- A recipient with a name, whose mailbox can be read between angle brackets. -/
theorem enters_named {m n : Text} (hg : a.group = false) (hm : a.mailbox = some m)
    (hname : a.personal = some n) (hn : n ≠ []) {rest : Text}
    (hread : m ≠ ['@'] → ∀ name, Address.readAngle name [] (m ++ '>' :: rest) =
      .ok ({ personal := name, mailbox := some m }, rest)) : EntersAs a a.reread rest := by
  intro entries count
  have hspace : skipGap (' ' :: (Address.writeMailbox id true m ++ rest)) =
      Address.writeMailbox id true m ++ rest := skipGap_bracketed m
  have hdetached : Detached (' ' :: (Address.writeMailbox id true m ++ rest)) :=
    (detached_angle _).space
  rw [write_named_recipient hm hname hn, List.append_assoc, List.cons_append,
    scan_name n rfl hdetached (stops_cons.2 (by decide)) (by simp), scan_angle rfl hread hspace]
  refine ⟨_, rfl, ?_, fun h => ?_⟩
  · simp [settled, close, clear, push, Address.reread, hg, hm, hname]
  · simp [Address.isGroupMarker, hg] at h

theorem enters_bare {m : Text} (hg : a.group = false) (hm : a.mailbox = some m)
    (hname : a.personal = none) (hmail : WellFormedMailbox m) (hrest : Stops rest) : Enters a rest := by
  intro entries count
  have hnomarker : a.isGroupMarker = false := by simp [Address.isGroupMarker, hg]
  rw [write_recipient hm hname]
  by_cases hnull : m = ['@']
  · rw [hnull] at hm
    rw [hnull, writeMailbox_null, scan_angle rfl (fun h => absurd rfl h) (skipGap_bracketed _)]
    refine ⟨_, rfl, ?_, fun h => (by rw [hnomarker] at h; cases h)⟩
    simp [settled, close, clear, push, Address.unconverted, hg, hm, hname]
  · rw [writeMailbox_bare hmail hnull, scan_mailbox hmail hnull rfl hrest]
    refine ⟨_, rfl, ?_, fun h => (by rw [hnomarker] at h; cases h)⟩
    rw [settled_mailbox hmail hnull]
    simp [Address.unconverted, hg, hm, hname]

/-- The rest may go on with an ordinary character only after a marker, whose written form ends with
    a space. -/
theorem enters_wellFormed (ha : a.WellFormed) (hrest : a.isGroupMarker = true ∨ Stops rest) :
    Enters a rest := by
  have hnonempty (hp : ∀ n ∈ a.personal, WellFormedName n) : a.personal ≠ some [] :=
    fun h => (hp [] h).1 rfl
  cases ha with
  | terminator hg hm hp => exact enters_terminator hg hm hp rest
  | marker hg hm hp =>
    rw [enters_iff, ← Address.reread_eq_unconverted hp]
    exact enters_marker hg hm (hnonempty hp) rest
  | recipient m hg hm hmail hp =>
    have hnomarker : a.isGroupMarker = false := by simp [Address.isGroupMarker, hg]
    cases hname : a.personal with
    | none => exact enters_bare hg hm hname hmail (hrest.resolve_left (by simp [hnomarker]))
    | some n =>
      rw [enters_iff, ← Address.reread_eq_unconverted hp]
      refine enters_named hg hm hname (hp n hname).1 fun hnull name => ?_
      obtain ⟨c, r, hcons, hat⟩ := hmail.head hnull
      exact Address.readAngle_built hmail.built (by simp [hcons]) (by simp [hcons, hat]) name rest

/-! ## Lists -/

/-- After an entry and its separator, if any, reading goes on as after a closed entry. -/
theorem scan_separator {l : AddressList} (hne : l ≠ [])
    (hmarker : a.isGroupMarker = true → d.settled = d) :
    d.scan (separator a l ++ (write l ++ rest)) = d.settled.scan (write l ++ rest) := by
  rcases separator_cases a l with hsep | ⟨hsep, hnil | hm | ⟨t, ht⟩⟩
  · rw [hsep]
    exact scan_comma_settled _
  · exact absurd hnil hne
  · rw [hsep, hmarker hm, List.nil_append]
  · rw [hsep, ht, List.nil_append]
    exact scan_semicolon_settled _

theorem stops_of_gaps {gaps : Text} (hgaps : ∀ c ∈ gaps, isGap c = true) : Stops gaps := by
  intro c hc
  simp [isOrdinary, hgaps c (List.mem_of_mem_head? hc)]

theorem stops_separator {l : AddressList} (hm : a.isGroupMarker = false) {gaps : Text}
    (hgaps : ∀ c ∈ gaps, isGap c = true) : Stops (separator a l ++ (write l ++ gaps)) := by
  rcases separator_cases a l with hsep | ⟨hsep, hnil | hm' | ⟨t, ht⟩⟩
  · rw [hsep]
    exact stops_cons.2 (by decide)
  · rw [hsep, hnil]
    exact stops_of_gaps hgaps
  · rw [hm] at hm'
    cases hm'
  · rw [hsep, ht]
    exact stops_cons.2 (by decide)

/-- Reading the written form of a list, and white space after it, where each entry is read as `f`
    says. -/
theorem scan_write_as {f : Address → Address} {l : AddressList}
    (hl : ∀ a ∈ l, ∀ rest, a.isGroupMarker = true ∨ Stops rest → EntersAs a (f a) rest)
    (entries : AddressList) (count : Nat) {gaps : Text} (hgaps : ∀ c ∈ gaps, isGap c = true) :
    ∃ d : Draft, Draft.scan { entries, count } (write l ++ gaps) = (d, none) ∧
      d.entries = entries ++ l.map f ∧ d.count = count + countRecipients l := by
  induction l generalizing entries count with
  | nil => exact ⟨_, scan_gaps hgaps, by simp [close], by simp [close, countRecipients]⟩
  | cons a l ih =>
    have hrest : a.isGroupMarker = true ∨ Stops (separator a l ++ (write l ++ gaps)) := by
      cases hm : a.isGroupMarker with
      | true => exact .inl rfl
      | false => exact .inr (stops_separator hm hgaps)
    obtain ⟨d, hscan, hsettled, hmarker⟩ := hl a List.mem_cons_self _ hrest entries count
    have hcount : countRecipients (a :: l) =
        (if a.mailbox.isSome then 1 else 0) + countRecipients l := by
      simp [countRecipients, List.countP_cons, Nat.add_comm]
    rw [write_cons, List.append_assoc, List.append_assoc, hscan]
    by_cases hne : l = []
    · subst hne
      refine ⟨d.close, scan_gaps hgaps, congrArg Draft.entries hsettled, ?_⟩
      rw [hcount]
      exact congrArg Draft.count hsettled
    · obtain ⟨d', hscan', hentries, hcount'⟩ := ih (fun b hb => hl b (List.mem_cons_of_mem a hb))
        (entries ++ [f a]) (count + if a.mailbox.isSome then 1 else 0)
      rw [scan_separator hne hmarker, hsettled]
      refine ⟨d', hscan', ?_, ?_⟩
      · rw [hentries, List.append_assoc, List.map_cons, List.singleton_append]
      · rw [hcount', hcount, Nat.add_assoc]

/-- Reading the written form of a list, and white space after it. -/
theorem scan_write {l : AddressList} (hl : AddressList.WellFormed l) (entries : AddressList)
    (count : Nat) {gaps : Text} (hgaps : ∀ c ∈ gaps, isGap c = true) :
    ∃ d : Draft, Draft.scan { entries, count } (write l ++ gaps) = (d, none) ∧
      d.entries = entries ++ l.map Address.unconverted ∧ d.count = count + countRecipients l :=
  scan_write_as (fun a ha _ hrest => enters_iff.1 (enters_wellFormed (hl a ha) hrest)) entries count hgaps

end Draft

theorem parseOnto_write_gaps {l : AddressList} (hl : l.WellFormed) {gaps : Text}
    (hgaps : ∀ c ∈ gaps, isGap c = true) :
    parseOnto [] (write l ++ gaps) = (l.map Address.unconverted, .ok l.countRecipients) := by
  obtain ⟨d, hscan, hentries, hcount⟩ := Draft.scan_write hl [] 0 hgaps
  unfold parseOnto
  rw [hscan]
  show (d.entries, Except.ok d.count) = _
  rw [hentries, hcount, Nat.zero_add, List.nil_append]

/-- What was written is read back: the same entries in the same order, as they are before their
    domains are converted, and as many mailboxes as the list has recipients. -/
theorem parseOnto_write {l : AddressList} (hl : l.WellFormed) :
    parseOnto [] l.write = (l.map Address.unconverted, .ok l.countRecipients) := by
  have hnone : ∀ c ∈ ([] : Text), isGap c = true := fun _ h => (nomatch h)
  rw [← parseOnto_write_gaps hl hnone, List.append_nil]

/-- A group with a quoted name, in it a quoted local part and a name of two words, and the null
    mailbox after it. -/
theorem parseOnto_write_group :
    AddressList.WellFormed
      [{ personal := some "Team: \"A\"".toList, group := true },
        { mailbox := some "\"a b\"@x.org".toList, form := some .wire },
        { personal := some "Jo Doe".toList, mailbox := some "jo.d@[1]".toList },
        {}, { mailbox := some ['@'] }] ∧
    parseOnto [] "\"Team: \\\"A\\\"\": \"a b\"@x.org, Jo Doe <jo.d@[1]>;, <>".toList =
      ([{ personal := some "Team: \"A\"".toList, group := true },
        { mailbox := some "\"a b\"@x.org".toList },
        { personal := some "Jo Doe".toList, mailbox := some "jo.d@[1]".toList },
        {}, { mailbox := some ['@'] }], .ok 3) := by
  have hl : AddressList.WellFormed
      [{ personal := some "Team: \"A\"".toList, group := true },
        { mailbox := some "\"a b\"@x.org".toList, form := some .wire },
        { personal := some "Jo Doe".toList, mailbox := some "jo.d@[1]".toList },
        {}, { mailbox := some ['@'] }] := by
    intro a ha
    simp only [List.mem_cons, List.not_mem_nil, or_false] at ha
    rcases ha with rfl | rfl | rfl | rfl | rfl
    · refine .marker rfl rfl fun n hn => ?_
      cases hn
      exact ⟨by decide, .inl ⟨':', by decide, by decide⟩⟩
    · exact .recipient _ rfl rfl
        (.quotedLocal "a b".toList (d := "x.org".toList) (by decide))
        (fun _ h => (nomatch h))
    · refine .recipient _ rfl rfl (.qualified (t := "jo.d".toList) (d := "[1]".toList)
        (by decide) (by decide)) fun n hn => ?_
      cases hn
      refine ⟨by decide, .inr ⟨["Jo".toList, "Doe".toList], by decide, fun w hw => ?_, by decide⟩⟩
      simp only [List.mem_cons, List.not_mem_nil, or_false] at hw
      rcases hw with rfl | rfl
      · exact ⟨by decide, Text.forall_mem_of_all (by decide)⟩
      · exact ⟨by decide, Text.forall_mem_of_all (by decide)⟩
    · exact .terminator rfl rfl rfl
    · exact .recipient _ rfl rfl .null (fun _ h => (nomatch h))
  exact ⟨hl, parseOnto_write hl⟩

end AddressList
end Recipients
