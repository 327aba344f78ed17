import Recipients.Proofs.Address.Built
import Recipients.Proofs.AddressList.Joined

/-
  What reading can yield: terminators, markers, and recipients whose mailbox the reader has built
  and whose name, where there is one, is not empty (`parsed_of_parseOnto`, `parsed_of_parseFreeOnto`).
  Every step of the reader keeps this of the entries so far. The count is that of the recipients which
  are added (`countRecipients_of_parseFreeOnto`).
-/

namespace Recipients
namespace Address

/-- An entry as reading makes it. -/
inductive Parsed : Address → Prop
  | terminator : Parsed groupEnd
  | marker (n : Text) : Parsed (groupMarker n)
  | recipient {m : Text} (hm : Built m) {p : Option Text} (hp : p ≠ some []) :
      Parsed { personal := p, mailbox := some m }

theorem Parsed.entryOf {name : Option Text} {m : Text} (hm : Built m) (hname : name ≠ some [])
    (comment : Text) : Parsed (entryOf name m comment) := by
  refine .recipient hm ?_
  cases name with
  | some n => exact hname
  | none =>
    rw [Option.none_or]
    split
    · exact nofun
    · rename_i h
      intro h'
      rw [Option.some.inj h'] at h
      exact h rfl

theorem parsed_of_readAngle {name : Option Text} {comment cs rest : Text} {a : Address}
    (hname : name ≠ some []) (h : readAngle name comment cs = .ok (a, rest)) : Parsed a := by
  obtain ⟨c, r, text, c', _, hmail, rfl⟩ := readAngle_eq_ok_iff.1 h
  refine Parsed.entryOf (m := angleMailbox text) ?_ hname c'
  unfold angleMailbox
  split
  · exact built_null
  · exact built_of_readMailbox hmail

theorem parsed_of_bareEntry? {phrase comment : Text} {a : Address}
    (h : bareEntry? phrase comment = some a) : Parsed a := by
  obtain ⟨p, hmail, rfl⟩ := exists_of_bareEntry? h
  exact .entryOf (built_of_readMailbox hmail) (by simp) p.comment

theorem Parsed.setPersonal {a : Address} (h : Parsed a) (hm : a.mailbox ≠ none) {n : Text} (hn : n ≠ []) :
    Parsed { a with personal := some n } := by
  cases h with
  | terminator | marker => exact absurd rfl hm
  | recipient hm' _ => exact .recipient hm' fun h => hn (Option.some.inj h)

end Address

namespace AddressList

/-- Every entry of the list is one that reading can yield. -/
def Parsed (l : AddressList) : Prop := ∀ a ∈ l, a.Parsed

variable {l : AddressList}

theorem parsed_nil : Parsed [] := fun _ ha => (nomatch ha)

theorem Parsed.concat (h : l.Parsed) {a : Address} (ha : a.Parsed) : Parsed (l ++ [a]) := by
  intro b hb
  rcases List.mem_append.1 hb with hb | hb
  · exact h b hb
  · rw [List.mem_singleton.1 hb]
    exact ha

theorem Parsed.nameLast {comment : Text} (hc : comment ≠ []) (h : l.Parsed) :
    Parsed (nameLast comment l) := by
  fun_induction AddressList.nameLast comment l with
  | case1 => exact h
  | case2 a hnamed =>
    intro b hb
    rw [List.mem_singleton.1 hb]
    refine (h a List.mem_cons_self).setPersonal ?_ hc
    intro hnone
    simp [hnone] at hnamed
  | case3 a => exact h
  | case4 a b r ih =>
    intro c hcmem
    rcases List.mem_cons.1 hcmem with rfl | hcmem
    · exact h c List.mem_cons_self
    · exact ih (fun x hx => h x (List.mem_cons_of_mem a hx)) c hcmem

namespace Draft

variable {d d' : Draft}

theorem parsed_close (h : Parsed d.entries) : Parsed d.close.entries := by
  unfold close
  split
  · split
    · exact h
    · rename_i hc
      exact h.nameLast (by simpa using hc)
  · split
    · rename_i a hbare
      have ha : a.Parsed := Address.parsed_of_bareEntry? hbare
      exact h.concat ha
    · exact h

theorem parsed_step {gap : Bool} {c : Char} {r rest : Text} (h : Parsed d.entries)
    (hs : d.step gap c r = .ok (d', rest)) : Parsed d'.entries := by
  cases step_eq_ok_iff.1 hs with
  | comma => exact parsed_close h
  | semicolon => exact (parsed_close h).concat .terminator
  | colon => exact h.concat (.marker _)
  | comment | quote | escape | word => exact h
  | angle hread =>
    refine h.concat (Address.parsed_of_readAngle ?_ hread)
    split
    · nofun
    · rename_i hphrase
      intro h'
      rw [Option.some.inj h'] at hphrase
      exact hphrase rfl

theorem parsed_scan (h : Parsed d.entries) (cs : Text) : Parsed (d.scan cs).1.entries := by
  fun_induction scan d cs with
  | case1 d cs hs => exact parsed_close h
  | case2 d cs c r hs e hstep => exact h
  | case3 d cs c r hs d' rest hstep ih => exact ih (parsed_step h hstep)

end Draft

theorem Parsed.parseOnto {m : AddressList} {t : Text} {n : Nat} (hl : l.Parsed)
    (h : AddressList.parseOnto l t = (m, .ok n)) : m.Parsed := by
  obtain ⟨d, hscan, rfl, _⟩ := parseOnto_eq_ok_iff.1 h
  have hparsed := Draft.parsed_scan (d := { entries := l }) hl t
  rwa [hscan] at hparsed

/-- Reading onto an empty list yields entries of these kinds only. -/
theorem parsed_of_parseOnto {t : Text} {n : Nat} (h : parseOnto [] t = (l, .ok n)) : l.Parsed :=
  parsed_nil.parseOnto h

theorem Parsed.parseWordsOnto {m : AddressList} {ws : List Text} {k n : Nat} (hl : l.Parsed)
    (h : AddressList.parseWordsOnto l k ws = (m, .ok n)) : m.Parsed := by
  induction ws generalizing l k with
  | nil =>
    cases h
    exact hl
  | cons w ws ih =>
    rw [AddressList.parseWordsOnto] at h
    split at h
    · rename_i hw
      exact ih (hl.parseOnto hw) h
    · cases h

theorem parsed_of_parseFreeOnto {t : Text} {n : Nat} (h : parseFreeOnto [] t = (l, .ok n)) :
    l.Parsed := by
  rw [parseFreeOnto] at h
  split at h
  · exact parsed_of_parseOnto h
  · cases hwords : parseWordsOnto [] 0 (Text.stretches (fun c => c == ' ' || c == '\t') t) with
    | mk l' result =>
      rw [hwords] at h
      cases result with
      | error e => cases h
      | ok k =>
        cases h
        exact parsed_nil.parseWordsOnto hwords

/-! ## How many mailboxes were read -/

theorem length_nameLast (comment : Text) (l : AddressList) :
    (nameLast comment l).length = l.length := by
  fun_induction AddressList.nameLast comment l with
  | case1 | case2 | case3 => rfl
  | case4 a b r ih => exact congrArg (· + 1) ih

theorem length_mailboxes (l : AddressList) : l.mailboxes.length = l.countRecipients :=
  List.length_filterMap_eq_countP

theorem countRecipients_nameLast (comment : Text) (l : AddressList) :
    (nameLast comment l).countRecipients = l.countRecipients := by
  rw [← length_mailboxes, mailboxes_nameLast, length_mailboxes]

theorem countRecipients_concat (l : AddressList) (a : Address) :
    countRecipients (l ++ [a]) = l.countRecipients + if a.mailbox.isSome then 1 else 0 := by
  unfold countRecipients
  rw [List.countP_append, List.countP_singleton]

namespace Draft

variable {d d' : Draft} {n : Nat}

theorem recipients_close (h : d.entries.countRecipients = n + d.count) :
    d.close.entries.countRecipients = n + d.close.count := by
  unfold close
  split
  · split
    · exact h
    · rwa [countRecipients_nameLast]
  · split
    · rename_i a hbare
      obtain ⟨p, -, rfl⟩ := Address.exists_of_bareEntry? hbare
      rw [countRecipients_concat, h]
      rfl
    · exact h

theorem recipients_push (h : d.entries.countRecipients = n + d.count) {a : Address} {counted : Nat}
    (ha : (if a.mailbox.isSome then 1 else 0) = counted) :
    (d.push a counted).entries.countRecipients = n + (d.push a counted).count := by
  unfold push
  rw [countRecipients_concat, h, ha, Nat.add_assoc]

/-- Every step counts the mailboxes that it adds. -/
theorem recipients_step {gap : Bool} {c : Char} {r rest : Text}
    (h : d.entries.countRecipients = n + d.count) (hs : d.step gap c r = .ok (d', rest)) :
    d'.entries.countRecipients = n + d'.count := by
  cases step_eq_ok_iff.1 hs with
  | comma => exact recipients_close h
  | semicolon => exact recipients_push (recipients_close h) rfl
  | colon => exact recipients_push h rfl
  | comment | quote | escape | word => exact h
  | angle hread =>
    obtain ⟨_, _, _, _, -, -, rfl⟩ := Address.readAngle_eq_ok_iff.1 hread
    exact recipients_push h rfl

theorem recipients_scan (h : d.entries.countRecipients = n + d.count) (cs : Text) :
    (d.scan cs).1.entries.countRecipients = n + (d.scan cs).1.count := by
  fun_induction scan d cs with
  | case1 d cs hs => exact recipients_close h
  | case2 d cs c r hs e hstep => exact h
  | case3 d cs c r hs d' rest hstep ih => exact ih (recipients_step h hstep)

end Draft

theorem countRecipients_of_parseOnto {m : AddressList} {t : Text} {n : Nat}
    (h : parseOnto l t = (m, .ok n)) : m.countRecipients = l.countRecipients + n := by
  obtain ⟨d, hscan, rfl, rfl⟩ := parseOnto_eq_ok_iff.1 h
  have hcount := Draft.recipients_scan (d := { entries := l }) (n := l.countRecipients) rfl t
  rwa [hscan] at hcount

theorem countRecipients_of_parseWordsOnto {m : AddressList} {ws : List Text} {k n : Nat}
    (h : parseWordsOnto l k ws = (m, .ok n)) : m.countRecipients + k = l.countRecipients + n := by
  induction ws generalizing l k with
  | nil =>
    cases h
    rfl
  | cons w ws ih =>
    rw [parseWordsOnto] at h
    split at h
    · rename_i hw
      have hfirst := countRecipients_of_parseOnto hw
      have hrest := ih h
      omega
    · cases h

theorem countRecipients_of_parseFreeOnto {m : AddressList} {t : Text} {n : Nat}
    (h : parseFreeOnto l t = (m, .ok n)) : m.countRecipients = l.countRecipients + n := by
  rw [parseFreeOnto] at h
  split at h
  · exact countRecipients_of_parseOnto h
  · cases hwords : parseWordsOnto l 0 (Text.stretches (fun c => c == ' ' || c == '\t') t) with
    | mk l' result =>
      rw [hwords] at h
      cases result with
      | error e => cases h
      | ok k =>
        cases h
        exact countRecipients_of_parseWordsOnto hwords

end AddressList
end Recipients
