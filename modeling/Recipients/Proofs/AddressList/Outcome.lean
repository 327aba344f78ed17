import Recipients.Proofs.Address.Grammar
import Recipients.Proofs.AddressList.Onto

/-
  What comes of reading text onto a list, strictly or as free text. If it succeeds, the number is that of
  the recipients added, and every entry added is of one kind, with the name that this kind can have and no
  form yet (`read_outcome`); its mailbox follows the grammar (`read_mailboxes`). If it fails, something in
  the text does not close, or a route or an angle address goes wrong. What is wrong with a bare entry is
  never told: such an entry is passed over (`Address.bareEntry?`). Free text without structural characters
  is always read.
-/

namespace Recipients

/-! ## What goes wrong -/

namespace ParseError

/-- Something that was opened is not closed. -/
def IsUnclosed (e : ParseError) : Prop := e = .mismatchedParen ∨ e = .mismatchedQuote

/-- The structure of the text is wrong, not that of one bare entry. -/
def IsStructural (e : ParseError) : Prop :=
  e ∈ [mismatchedParen, mismatchedQuote, badRoute, badRouteAddr]

instance (e : ParseError) : Decidable e.IsStructural := List.instDecidableMemOfLawfulBEq e _

theorem IsUnclosed.isStructural {e : ParseError} (h : e.IsUnclosed) : e.IsStructural := by
  rcases h with rfl | rfl
  · exact List.mem_cons_self
  · exact List.mem_cons_of_mem _ List.mem_cons_self

end ParseError

namespace Address

variable {e : ParseError} {cs : Text}

theorem readComment_error {d : Nat} (h : readComment d cs = .error e) : e = .mismatchedParen := by
  fun_induction readComment d cs with
  | case1 | case2 | case4 | case6 =>
    rename_i ih
    exact ih (Found.cons_eq_error.1 h)
  | case3 => cases h
  | case5 | case7 => exact (Except.error.inj h).symm

theorem readQuoted_error (h : readQuoted cs = .error e) : e = .mismatchedQuote := by
  fun_induction readQuoted cs with
  | case1 | case4 =>
    rename_i ih
    exact ih (Found.cons_eq_error.1 h)
  | case2 => cases h
  | case3 | case5 => exact (Except.error.inj h).symm

theorem readToken_error (h : readToken cs = .error e) : e.IsUnclosed := by
  unfold readToken at h
  split at h
  · cases h
  · split at h
    · exact .inl (readComment_error h)
    · split at h
      · exact .inr (readQuoted_error h)
      · split at h
        · cases h
        · cases h

theorem readPart_error {allowed text comment : Text} (h : readPart allowed text comment cs = .error e) :
    e.IsUnclosed := by
  fun_induction readPart allowed text comment cs with
  | case1 | case2 => cases h
  | case3 text comment cs r e' hc =>
    cases h
    exact .inl (readComment_error hc)
  | case5 text comment cs r e' hc =>
    cases h
    exact .inr (readQuoted_error hc)
  | case4 | case6 | case7 | case8 =>
    rename_i ih
    exact ih h

theorem readMailbox_error {comment : Text} (h : readMailbox comment cs = .error e) : e.IsUnclosed := by
  unfold readMailbox at h
  split at h
  · exact readPart_error h
  · exact readPart_error h

theorem readRoute_error {comment : Text} (h : readRoute comment cs = .error e) : e.IsUnclosed := by
  fun_induction readRoute comment cs with
  | case1 comment r e' hp =>
    cases h
    exact readPart_error hp
  | case2 comment r p hp ih => exact ih h
  | case3 => cases h

theorem skipRoute_error {comment : Text} (h : skipRoute comment cs = .error e) : e.IsStructural := by
  unfold skipRoute at h
  split at h
  · split at h
    · cases h
    · rw [← Except.error.inj h]
      decide
    · rename_i hroute
      cases h
      exact (readRoute_error hroute).isStructural
  · cases h

theorem readAngle_error {name : Option Text} {comment : Text}
    (h : readAngle name comment cs = .error e) : e.IsStructural := by
  unfold readAngle at h
  split at h
  · rename_i hroute
    cases h
    exact skipRoute_error hroute
  · split at h
    · rename_i hmail
      cases h
      exact (readMailbox_error hmail).isStructural
    · cases h
    · rw [← Except.error.inj h]
      decide

/-! ## Kinds of entries -/

/-- A terminator has no name, no mailbox and no group flag, a marker has the flag and no mailbox, and a
    recipient has a mailbox and no flag. -/
inductive Kind where
  | terminator
  | marker
  | recipient
  deriving DecidableEq

def IsOfKind (a : Address) : Kind → Prop
  | .terminator => a.personal = none ∧ a.mailbox = none ∧ a.group = false
  | .marker => a.mailbox = none ∧ a.group = true
  | .recipient => a.mailbox ≠ none ∧ a.group = false

variable {a : Address} {k k' : Kind}

theorem IsOfKind.unique (h : a.IsOfKind k) (h' : a.IsOfKind k') : k = k' := by
  cases k <;> cases k' <;> simp_all [IsOfKind]

theorem Parsed.existsUnique_kind (h : a.Parsed) : ∃! k, a.IsOfKind k := by
  have hkind : ∃ k, a.IsOfKind k := by
    cases h with
    | terminator => exact ⟨.terminator, rfl, rfl, rfl⟩
    | marker n => exact ⟨.marker, rfl, rfl⟩
    | recipient => exact ⟨.recipient, Option.some_ne_none _, rfl⟩
  obtain ⟨k, hk⟩ := hkind
  exact ⟨k, hk, fun k' hk' => hk'.unique hk⟩

theorem Parsed.personal_ne (h : a.Parsed) : a.personal ≠ some [] := by
  cases h with
  | terminator => exact fun h => Option.some_ne_none [] h.symm
  | marker n =>
    unfold groupMarker
    cases n <;> simp
  | recipient _ hp => exact hp

theorem Parsed.form_eq (h : a.Parsed) : a.form = none := by
  cases h <;> rfl

theorem Parsed.mailboxForm {m : Text} (h : a.Parsed) (hm : a.mailbox = some m) : MailboxForm m := by
  cases h with
  | terminator | marker => cases hm
  | recipient hbuilt =>
    cases hm
    exact mailboxForm_iff_built.2 hbuilt

end Address

namespace AddressList

open Address (isGap MailboxForm IsBoundary InsideQuotes)

namespace Draft

variable {d d' : Draft} {e : ParseError} {cs : Text}

theorem step_error {gap : Bool} {c : Char} {r : Text} (h : d.step gap c r = .error e) :
    e.IsStructural := by
  unfold step at h
  split at h
  · cases h
  · cases h
  · cases h
  · split at h
    · rename_i hread
      cases h
      exact ParseError.IsUnclosed.isStructural (.inl (Address.readComment_error hread))
    · cases h
  · split at h
    · rename_i hread
      cases h
      exact ParseError.IsUnclosed.isStructural (.inr (Address.readQuoted_error hread))
    · cases h
  · split at h
    · rename_i hread
      cases h
      exact Address.readAngle_error hread
    · cases h
  · split at h
    · rename_i hread
      cases h
      exact (Address.readToken_error hread).isStructural
    · cases h
  · split at h
    · rename_i hread
      cases h
      exact (Address.readToken_error hread).isStructural
    · cases h

theorem isStructural_of_scan (h : d.scan cs = (d', some e)) : e.IsStructural := by
  fun_induction scan d cs with
  | case1 => cases h
  | case2 d cs c r hs e' hstep =>
    cases h
    exact step_error hstep
  | case3 d cs c r hs d' rest hstep ih => exact ih h

/-- Text without structural characters has words only. -/
theorem scan_plain (hcs : ∀ c ∈ cs, structural.contains c = false) : (d.scan cs).2 = none := by
  fun_induction scan d cs with
  | case1 => rfl
  | case2 d cs c r hs e hstep =>
    obtain ⟨t, rest, -, -, hword⟩ := step_plain_skipGap hcs hs
    rw [hword] at hstep
    cases hstep
  | case3 d cs c r hs d' rest hstep ih =>
    obtain ⟨t, rest', -, hrest, hword⟩ := step_plain_skipGap hcs hs
    rw [hword] at hstep
    cases hstep
    exact ih hrest

end Draft

/-! ## Reading onto a list -/

variable {l m : AddressList} {t : Text} {e : ParseError}

theorem isStructural_of_parseOnto (h : parseOnto l t = (m, .error e)) : e.IsStructural := by
  unfold parseOnto at h
  split at h
  · cases h
  · rename_i hscan
    cases h
    exact Draft.isStructural_of_scan hscan

theorem isStructural_of_parseWordsOnto {ws : List Text} {k : Nat}
    (h : parseWordsOnto l k ws = (m, .error e)) : e.IsStructural := by
  induction ws generalizing l k with
  | nil => cases h
  | cons w ws ih =>
    rw [parseWordsOnto] at h
    split at h
    · exact ih h
    · rename_i hw
      cases h
      exact isStructural_of_parseOnto hw

theorem isStructural_of_parseFreeOnto (h : parseFreeOnto l t = (m, .error e)) : e.IsStructural := by
  rw [parseFreeOnto] at h
  split at h
  · exact isStructural_of_parseOnto h
  · cases hwords : parseWordsOnto l 0 (Text.stretches (fun c => c == ' ' || c == '\t') t) with
    | mk l' result =>
      rw [hwords] at h
      cases result with
      | ok k => cases h
      | error e' =>
        cases h
        exact isStructural_of_parseWordsOnto hwords

theorem exists_parseOnto_plain (ht : ∀ c ∈ t, structural.contains c = false) (l : AddressList) :
    ∃ m n, parseOnto l t = (m, .ok n) := by
  have hscan := Draft.scan_plain (d := { entries := l }) ht
  exact ⟨_, _, parseOnto_of_scan hscan rfl rfl⟩

theorem exists_parseWordsOnto_plain {ws : List Text}
    (hws : ∀ w ∈ ws, ∀ c ∈ w, structural.contains c = false) (l : AddressList) (k : Nat) :
    ∃ m n, parseWordsOnto l k ws = (m, .ok n) := by
  induction ws generalizing l k with
  | nil => exact ⟨l, k, rfl⟩
  | cons w ws ih =>
    obtain ⟨hw, hws⟩ := List.forall_mem_cons.1 hws
    obtain ⟨m, n, hread⟩ := exists_parseOnto_plain hw l
    rw [parseWordsOnto, hread]
    exact ih hws m (k + n)

theorem exists_parseFreeOnto_plain (ht : ∀ c ∈ t, c ∉ structural) (l : AddressList) :
    ∃ m n, parseFreeOnto l t = (m, .ok n) := by
  have hplain : ∀ c ∈ t, structural.contains c = false := by
    intro c hc
    simpa using ht c hc
  have hnone : (t.any fun c => structural.contains c) = false :=
    List.any_eq_false.2 fun c hc => Bool.eq_false_iff.1 (hplain c hc)
  have hws : ∀ w ∈ Text.stretches (fun c => c == ' ' || c == '\t') t, ∀ c ∈ w,
      structural.contains c = false := by
    intro w hw c hc
    exact hplain c ((Text.mem_stretches hw).2 c hc).1
  obtain ⟨m, n, hread⟩ := exists_parseWordsOnto_plain hws l 0
  rw [parseFreeOnto, hnone, hread]
  exact ⟨m, n, rfl⟩

/-- Every mailbox that a reading adds follows the grammar, and has white space, line ends and characters
    with a meaning between mailboxes inside quotes only. -/
theorem read_mailboxes {read : AddressList → Text → AddressList × Except ParseError Nat}
    (hread : read ∈ [parseOnto, parseFreeOnto]) {n : Nat} (h : read l t = (m, .ok n)) :
    ∀ a ∈ m.drop l.length, ∀ x ∈ a.mailbox,
      MailboxForm x ∧ ∀ p c r, x = p ++ c :: r → IsBoundary c → InsideQuotes p r := by
  intro a ha x hx
  have hform : MailboxForm x := (parsed_drop hread h a ha).mailboxForm hx
  exact ⟨hform, fun p c r => hform.insideQuotes⟩

theorem read_mailboxes_quoted :
    let t := "team: <\"o,\n\\\"b\"@d>, <@relay:j (c) @ h[1]> (Joe);".toList
    let m := [Address.groupMarker "team".toList, .ofMailbox "\"o,\n\\\"b\"@d".toList,
      { personal := some "c".toList, mailbox := some "j@h[1]".toList }, .groupEnd]
    parseOnto [] t = (m, .ok 2) ∧
      ∀ a ∈ m, ∀ x ∈ a.mailbox,
        MailboxForm x ∧ ∀ p c r, x = p ++ c :: r → IsBoundary c → InsideQuotes p r := by
  intro t m
  have hread : parseOnto [] t = (m, .ok 2) := by decide +kernel
  exact ⟨hread, read_mailboxes List.mem_cons_self hread⟩

/-- What a reading onto the list `l` may come to. -/
def IsOutcome (l : AddressList) : AddressList × Except ParseError Nat → Prop
  | (m, .ok n) =>
    m.countRecipients = l.countRecipients + n ∧
      ∀ a ∈ m.drop l.length, (∃! k, a.IsOfKind k) ∧ a.personal ≠ some [] ∧ a.form = none
  | (_, .error e) => e.IsStructural

/-- The count is that of the recipients added, every entry added is of exactly one kind, and an error is
    one in the structure of the text. Free text without structural characters can always be read. -/
theorem read_outcome (l : AddressList) (t : Text) :
    (∀ read ∈ [parseOnto, parseFreeOnto], IsOutcome l (read l t)) ∧
    ((∀ c ∈ t, c ∉ structural) → ∃ m n, parseFreeOnto l t = (m, .ok n)) := by
  refine ⟨?_, fun ht => exists_parseFreeOnto_plain ht l⟩
  intro read hread
  have hkinds {m : AddressList} {n : Nat} (h : read l t = (m, .ok n)) :
      ∀ a ∈ m.drop l.length, (∃! k, a.IsOfKind k) ∧ a.personal ≠ some [] ∧ a.form = none := by
    intro a ha
    have hparsed := parsed_drop hread h a ha
    exact ⟨hparsed.existsUnique_kind, hparsed.personal_ne, hparsed.form_eq⟩
  cases hresult : read l t with
  | mk m result =>
    simp only [List.mem_cons, List.not_mem_nil, or_false] at hread
    cases result with
    | ok n =>
      refine ⟨?_, hkinds hresult⟩
      rcases hread with rfl | rfl
      · exact countRecipients_of_parseOnto hresult
      · exact countRecipients_of_parseFreeOnto hresult
    | error e =>
      rcases hread with rfl | rfl
      · exact isStructural_of_parseOnto hresult
      · exact isStructural_of_parseFreeOnto hresult

/-- A bare entry with two at signs is passed over. -/
example :
    parseOnto [] "a, b@@c, d".toList = ([.ofMailbox ['a'], .ofMailbox ['d']], .ok 2) := by
  decide +kernel

end AddressList
end Recipients
