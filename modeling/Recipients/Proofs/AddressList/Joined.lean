import Recipients.Proofs.Address.Followed
import Recipients.Proofs.AddressList.Scan

/-
  Two texts with a comma and a space between them. The joined text yields the mailboxes of the first
  and then those of the second, whatever the second is, exactly if the first does not end escaped
  (`parseOnto_joined`).

  At a comma the reader does what it does at the end of the input (`scan_append_comma`), provided
  that it gets to see the comma. A backslash takes the character after it and then one token, which
  may be a comma: after an escape at the end of the first text the words go on into the second, and
  a mailbox is lost (`parseOnto_joined_escaped`).
-/

namespace Recipients
namespace AddressList

open Address (isGap isSpecial skipGap skipGap_append skipGap_head readComment readQuoted readToken
  readAngle readComment_append readQuoted_append readToken_append readAngle_append Stops stops_cons
  joinComment bareEntry?)

namespace Draft

variable {d d' : Draft} {rest more : Text}

/-! ## Reading on -/

/-- What a step takes up does not depend on what follows. Only a backslash may reach for it, when
    there is at most one character after it. -/
theorem step_append {gap : Bool} {c : Char} {r : Text} (h : d.step gap c r = .ok (d', rest))
    (hmore : Stops more) (hat : more.head? ≠ some '@') (hescape : c = '\\' → 2 ≤ r.length) :
    d.step gap c (r ++ more) = .ok (d', rest ++ more) := by
  rw [step_eq_ok_iff] at h ⊢
  cases h with
  | comma => exact .comma _
  | semicolon => exact .semicolon _
  | colon => exact .colon _
  | comment hread => exact .comment (readComment_append hread more)
  | quote hread =>
    have hhead : ((rest ++ more).head? == some '@') = (rest.head? == some '@') := by
      cases rest with
      | nil => simpa using hat
      | cons => rfl
    rw [← hhead]
    exact .quote (readQuoted_append hread more)
  | angle hread => exact .angle (readAngle_append hread hmore)
  | escape hread =>
    obtain ⟨e, c, r, rfl⟩ : ∃ e c r', r = e :: c :: r' := by
      match r, hescape rfl with
      | e :: c :: r', _ => exact ⟨e, c, r', rfl⟩
    exact .escape (readToken_append hread hmore)
  | word hc hread => exact .word hc (readToken_append hread hmore)

/-- Each step takes something. -/
theorem rest_length_lt {gap : Bool} {cs r : Text} {c : Char} (hs : skipGap cs = c :: r)
    (h : d.step gap c r = .ok (d', rest)) : rest.length < cs.length := by
  have hle := Address.skipGap_length_le cs
  rw [hs, List.length_cons] at hle
  have := step_length_le (skipGap_head hs) h
  omega

/-- Whether the reading of a text comes to a backslash with at most one character after it. Where
    more text follows, the backslash or the token after it reaches into that text. -/
def endsEscaped (d : Draft) (cs : Text) : Bool :=
  match _h : skipGap cs with
  | [] => false
  | c :: r =>
    if c = '\\' ∧ r.length ≤ 1 then true
    else match _hs : d.step (cs.head?.any isGap) c r with
      | .error _ => false
      | .ok (d', rest) => d'.endsEscaped rest
termination_by cs.length
decreasing_by exact rest_length_lt _h _hs

theorem head?_append {cs r : Text} {c : Char} (h : skipGap cs = c :: r) (more : Text) :
    (cs ++ more).head?.any isGap = cs.head?.any isGap := by
  cases cs with
  | nil => cases h
  | cons => rfl

/-- A text that is read to its end, and a comma after it: the comma closes what the end of the text
    would have closed. -/
theorem scan_append_comma {cs : Text} (h : d.scan cs = (d', none)) (hends : d.endsEscaped cs = false)
    (more : Text) : d.scan (cs ++ ',' :: more) = d'.clear.scan more := by
  fun_induction endsEscaped d cs with
  | case1 d cs hs =>
    rw [scan_end hs] at h
    cases h
    have hskip : skipGap (cs ++ ',' :: more) = ',' :: more := by
      rw [skipGap, List.dropWhile_append, ← skipGap, hs]
      rfl
    exact scan_step hskip rfl
  | case2 => cases hends
  | case3 d cs c r hs _ e hstep =>
    rw [scan_error hs hstep] at h
    cases h
  | case4 d cs c r hs hescape d₁ rest hstep ih =>
    rw [scan_step hs hstep] at h
    have hescape' : c = '\\' → 2 ≤ r.length :=
      fun hc => Nat.lt_of_not_le fun hle => hescape ⟨hc, hle⟩
    have hstop : Stops (',' :: more) := stops_cons.2 (by decide)
    have hstep' := step_append hstep hstop (by simp) hescape'
    rw [← head?_append hs (',' :: more)] at hstep'
    rw [scan_step (skipGap_append hs _) hstep']
    exact ih h hends

/-! ## Lists before -/

/-- Two drafts that collect the same; the one has entries with the mailboxes `before` in addition. -/
structure Follows (before : List Text) (d d' : Draft) : Prop where
  phrase : d.phrase = d'.phrase
  comment : d.comment = d'.comment
  mailboxes : d.entries.mailboxes = before ++ d'.entries.mailboxes

end Draft

theorem mailboxes_append (l m : AddressList) : (l ++ m).mailboxes = l.mailboxes ++ m.mailboxes :=
  List.filterMap_append ..

theorem mailboxes_nameLast (comment : Text) (l : AddressList) :
    (nameLast comment l).mailboxes = l.mailboxes := by
  fun_induction nameLast comment l with
  | case1 => rfl
  | case2 => rfl
  | case3 => rfl
  | case4 a b r ih =>
    show mailboxes ([a] ++ nameLast comment (b :: r)) = mailboxes ([a] ++ (b :: r))
    rw [mailboxes_append, ih, mailboxes_append]

namespace Draft

variable {d d' : Draft} {before : List Text}

theorem Follows.close (h : Follows before d d') : Follows before d.close d'.close := by
  obtain ⟨hphrase, hcomment, hmail⟩ := h
  unfold Draft.close
  rw [hphrase, hcomment]
  split
  · split
    · exact ⟨hphrase, hcomment, hmail⟩
    · exact ⟨rfl, rfl, by rw [mailboxes_nameLast, mailboxes_nameLast, hmail]⟩
  · split
    · exact ⟨rfl, rfl, by rw [mailboxes_append, mailboxes_append, hmail, List.append_assoc]⟩
    · exact ⟨hphrase, hcomment, hmail⟩

theorem Follows.clear (h : Follows before d d') : Follows before d.clear d'.clear :=
  ⟨rfl, rfl, h.mailboxes⟩

theorem Follows.push (h : Follows before d d') (a : Address) (counted : Nat) :
    Follows before (d.push a counted) (d'.push a counted) :=
  ⟨rfl, rfl, by
    rw [Draft.push, Draft.push, mailboxes_append, mailboxes_append, h.mailboxes, List.append_assoc]⟩

theorem Follows.joined (h : Follows before d d') (spaced : Bool) : d.joined spaced = d'.joined spaced := by
  rw [Draft.joined, Draft.joined, h.phrase]

theorem Follows.collect (h : Follows before d d') (phrase : Text) :
    Follows before { d with phrase } { d' with phrase } :=
  ⟨rfl, h.comment, h.mailboxes⟩

/-- Two results of a step that go on alike. -/
def SameStep (before : List Text) : (s s' : Except ParseError (Draft × Text)) → Prop
  | .ok (d, rest), .ok (d', rest') => rest = rest' ∧ Follows before d d'
  | .error e, .error e' => e = e'
  | _, _ => False

theorem step_of_isWordStart {c : Char} (hc : IsWordStart c) (gap : Bool) (r : Text) :
    d.step gap c r =
      match readToken (c :: r) with
      | .error e => .error e
      | .ok (t, rest) => .ok ({ d with phrase := d.joined gap ++ t }, rest) := by
  cases hr : readToken (c :: r) with
  | ok p => exact step_word gap hc hr
  | error e =>
    unfold IsWordStart at hc
    unfold Draft.step
    split
    all_goals simp_all

theorem Follows.step (h : Follows before d d') (gap : Bool) (c : Char) (r : Text) :
    SameStep before (d.step gap c r) (d'.step gap c r) := by
  by_cases hc : c ∈ [',', ';', ':', '(', '"', '<', '\\']
  · simp only [List.mem_cons, List.not_mem_nil, or_false] at hc
    rcases hc with rfl | rfl | rfl | rfl | rfl | rfl | rfl
    · exact ⟨rfl, h.close.clear⟩
    · exact ⟨rfl, h.close.push _ _⟩
    · rw [Draft.step, Draft.step, h.phrase]
      exact ⟨rfl, h.push _ _⟩
    · rw [Draft.step, Draft.step, h.comment]
      cases readComment 0 r with
      | error e => exact rfl
      | ok p => exact ⟨rfl, h.phrase, rfl, h.mailboxes⟩
    · rw [Draft.step, Draft.step, h.joined]
      cases readQuoted r with
      | error e => exact rfl
      | ok p => exact ⟨rfl, h.collect _⟩
    · rw [Draft.step, Draft.step, h.phrase, h.comment]
      split
      · exact rfl
      · exact ⟨rfl, h.push _ _⟩
    · rw [Draft.step, Draft.step, h.joined]
      cases readToken r.tail with
      | error e => exact rfl
      | ok p => exact ⟨rfl, h.collect _⟩
  · rw [step_of_isWordStart hc, step_of_isWordStart hc, h.joined]
    cases readToken (c :: r) with
    | error e => exact rfl
    | ok p => exact ⟨rfl, h.collect _⟩

/-- Entries from before do not change what is read. -/
theorem Follows.scan (h : Follows before d d') (cs : Text) :
    (d.scan cs).2 = (d'.scan cs).2 ∧ Follows before (d.scan cs).1 (d'.scan cs).1 := by
  fun_induction Draft.scan d cs generalizing d' with
  | case1 d cs hs =>
    rw [scan_end hs]
    exact ⟨rfl, h.close⟩
  | case2 d cs c r hs e hstep =>
    have hsame := h.step (cs.head?.any isGap) c r
    rw [hstep] at hsame
    cases hstep' : d'.step (cs.head?.any isGap) c r with
    | error e' =>
      rw [hstep'] at hsame
      rw [scan_error hs hstep']
      exact ⟨congrArg some hsame, h⟩
    | ok p =>
      rw [hstep'] at hsame
      exact hsame.elim
  | case3 d cs c r hs d₁ rest hstep ih =>
    have hsame := h.step (cs.head?.any isGap) c r
    rw [hstep] at hsame
    cases hstep' : d'.step (cs.head?.any isGap) c r with
    | error e' =>
      rw [hstep'] at hsame
      exact hsame.elim
    | ok p =>
      obtain ⟨d₁', rest'⟩ := p
      rw [hstep'] at hsame
      obtain ⟨rfl, hnext⟩ := hsame
      rw [scan_step hs hstep']
      exact ih hnext

/-! ## Escapes at the end -/

theorem scan_nil : d.scan [] = (d.close, none) := scan_end rfl

/-- A text that ends escaped is read like words. With more text they go on, over the comma. -/
theorem exists_of_endsEscaped {cs : Text} (h : d.endsEscaped cs = true) :
    ∃ (d' : Draft) (phrase : Text),
      d.scan cs = ({ d' with phrase }.close, none) ∧
      d.scan (cs ++ [',', ' ', 'z']) = ({ d' with phrase := phrase ++ [',', ' ', 'z'] }.close, none) := by
  fun_induction endsEscaped d cs with
  | case1 => cases h
  | case2 d cs c r hs hescape =>
    obtain ⟨rfl, hlength⟩ := hescape
    have hshort : r = [] ∨ ∃ e, r = [e] := by
      cases r with
      | nil => exact .inl rfl
      | cons e r =>
        have hzero : r.length = 0 := Nat.le_zero.1 (Nat.le_of_succ_le_succ hlength)
        exact .inr ⟨e, by rw [List.eq_nil_of_length_eq_zero hzero]⟩
    have hread : d.step (cs.head?.any isGap) '\\' r =
        .ok ({ d with phrase := d.joined (cs.head?.any isGap) ++ r }, []) := by
      rcases hshort with rfl | ⟨e, rfl⟩
      · simp [Draft.step, readToken]
      · simp [Draft.step, readToken]
    have hread' : d.step (cs.head?.any isGap) '\\' (r ++ [',', ' ', 'z']) =
        .ok ({ d with phrase := d.joined (cs.head?.any isGap) ++ r ++ [','] }, [' ', 'z']) := by
      rcases hshort with rfl | ⟨e, rfl⟩
      · simp [Draft.step, show readToken [' ', 'z'] = .ok ([], [' ', 'z']) from rfl]
      · simp [Draft.step, show readToken [',', ' ', 'z'] = .ok ([','], [' ', 'z']) from rfl]
    refine ⟨d, d.joined (cs.head?.any isGap) ++ r, ?_, ?_⟩
    · rw [scan_step hs hread, scan_nil]
    · rw [← head?_append hs [',', ' ', 'z']] at hread'
      have hword := scan_space_word (d := { d with phrase := d.joined (cs.head?.any isGap) ++ r ++ [','] })
        (w := ['z']) (t := []) (by simp) (by simp) (List.forall_mem_singleton.2 rfl) Address.stops_nil
      rw [scan_step (skipGap_append hs _) hread', head?_append hs]
      rw [List.append_nil] at hword
      rw [hword, scan_nil, List.append_assoc _ [','], List.singleton_append]
  | case3 => cases h
  | case4 d cs c r hs hescape d₁ rest hstep ih =>
    have hescape' : c = '\\' → 2 ≤ r.length :=
      fun hc => Nat.lt_of_not_le fun hle => hescape ⟨hc, hle⟩
    have hstop : Stops [',', ' ', 'z'] := stops_cons.2 (by decide)
    have hstep' := step_append hstep hstop (by simp) hescape'
    rw [← head?_append hs [',', ' ', 'z']] at hstep'
    rw [scan_step hs hstep, scan_step (skipGap_append hs _) hstep']
    exact ih h

/-- The mailbox, if any, that the words collected so far come to. -/
def pending (d : Draft) : Option Text :=
  if d.phrase.isEmpty then none else ( bareEntry? d.phrase d.comment).bind Address.mailbox

theorem mailboxes_close (d : Draft) :
    d.close.entries.mailboxes = d.entries.mailboxes ++ d.pending.toList := by
  unfold Draft.close pending
  split
  · split
    · exact (List.append_nil _).symm
    · exact (mailboxes_nameLast _ _).trans (List.append_nil _).symm
  · cases hbare : bareEntry? d.phrase d.comment with
    | none => exact (List.append_nil _).symm
    | some a =>
      obtain ⟨m, hm⟩ := Address.mailbox_of_bareEntry? hbare
      rw [Option.bind_some, hm]
      show (d.entries ++ [a]).mailboxes = _
      rw [mailboxes_append]
      simp [mailboxes, hm]

/-- Words that a comma was drawn into come to no mailbox unless those before the comma did, and never
    to the one after it. -/
theorem pending_drawn_ne (d : Draft) (phrase : Text) :
    (pending { d with phrase := phrase ++ [',', ' ', 'z'] }).toList ≠
      (pending { d with phrase }).toList ++ [['z']] := by
  intro h
  by_cases hempty : phrase = []
  · subst hempty
    have hlocal : Address.readMailbox d.comment [',', ' ', 'z'] = .ok ⟨[], d.comment, [',', ' ', 'z']⟩ :=
      Address.readMailbox_built (.bare .nil) (fun c hc => by cases hc; decide) _
    simp [pending, bareEntry?, Address.readBare, hlocal, Except.toOption, Address.entryOf] at h
  · cases hbare : bareEntry? phrase d.comment with
    | none =>
      have hstop : Stops [',', ' ', 'z'] := stops_cons.2 (by decide)
      have hnone := Address.bareEntry?_append_eq_none hbare (by decide) (by decide) hstop
      simp [pending, hbare, hnone] at h
    | some a =>
      obtain ⟨m, hm⟩ := Address.mailbox_of_bareEntry? hbare
      have hsome : pending { d with phrase } = some m := by simp [pending, hempty, hbare, hm]
      rw [hsome] at h
      cases hp : pending { d with phrase := phrase ++ [',', ' ', 'z'] } with
      | none => simp [hp] at h
      | some m' => simp [hp] at h

end Draft

/-! ## Two texts -/

theorem parseOnto_of_scan {l m : AddressList} {cs : Text} {n : Nat}
    (hend : (Draft.scan { entries := l } cs).2 = none)
    (hentries : (Draft.scan { entries := l } cs).1.entries = m)
    (hcount : (Draft.scan { entries := l } cs).1.count = n) : parseOnto l cs = (m, .ok n) := by
  unfold parseOnto
  rw [← hentries, ← hcount]
  split
  · rename_i hscan
    rw [hscan]
  · rename_i hscan
    rw [hscan] at hend
    cases hend

theorem parseOnto_eq_ok_iff {l m : AddressList} {cs : Text} {n : Nat} :
    parseOnto l cs = (m, .ok n) ↔
      ∃ d : Draft, Draft.scan { entries := l } cs = (d, none) ∧ d.entries = m ∧ d.count = n := by
  unfold parseOnto
  split
  · rename_i d hscan
    rw [hscan]
    simp
  · rename_i d e hscan
    rw [hscan]
    simp

/-- After a text that can be read, a comma and a space keep apart any other such text, whose
    mailboxes then come after its own, exactly if the first does not end escaped. -/
theorem parseOnto_joined {s : Text} {ls : AddressList} {n : Nat}
    (hs : parseOnto [] s = (ls, .ok n)) :
    (∀ t lt k, parseOnto [] t = (lt, .ok k) →
      ∃ l j, parseOnto [] (s ++ [',', ' '] ++ t) = (l, .ok j) ∧
        l.mailboxes = ls.mailboxes ++ lt.mailboxes) ↔
      Draft.endsEscaped { entries := [] } s = false := by
  obtain ⟨d, hscan, rfl, _⟩ := parseOnto_eq_ok_iff.1 hs
  constructor
  · intro h
    rw [Bool.eq_false_iff]
    intro hends
    obtain ⟨d', phrase, hread, hjoined⟩ := Draft.exists_of_endsEscaped hends
    rw [hscan] at hread
    obtain ⟨l, j, hl, hmail⟩ := h ['z'] [.ofMailbox ['z']] 1
      (parseOnto_of_scan (by decide +kernel) (by decide +kernel) (by decide +kernel))
    obtain ⟨d'', hscan'', rfl, _⟩ := parseOnto_eq_ok_iff.1 hl
    rw [List.append_assoc, List.cons_append, List.singleton_append, hjoined] at hscan''
    rw [← (Prod.mk.inj hscan'').1, (Prod.mk.inj hread).1, Draft.mailboxes_close,
      Draft.mailboxes_close, List.append_assoc] at hmail
    exact Draft.pending_drawn_ne d' phrase (List.append_cancel_left hmail)
  · intro hends t lt k ht
    obtain ⟨dt, hscant, rfl, _⟩ := parseOnto_eq_ok_iff.1 ht
    have hfollows : Draft.Follows d.entries.mailboxes d.clear { entries := [] } :=
      ⟨rfl, rfl, (List.append_nil _).symm⟩
    obtain ⟨hnone, hend⟩ := hfollows.scan t
    simp only [hscant] at hnone hend
    have hjoined : Draft.scan { entries := [] } (s ++ [',', ' '] ++ t) = d.clear.scan t := by
      rw [List.append_assoc, List.cons_append, List.singleton_append,
        Draft.scan_append_comma hscan hends, Draft.scan_gap rfl rfl]
    refine ⟨_, _, parseOnto_eq_ok_iff.2 ⟨(d.clear.scan t).1, ?_, rfl, rfl⟩, hend.mailboxes⟩
    rw [hjoined, ← hnone]

/-- A text with an escape in it and a comment at its end. -/
theorem parseOnto_joined_comment :
    ∃ ls, parseOnto [] "Jo <a@b>, \\y.c (n)".toList = (ls, .ok 2) ∧
      ls.mailboxes = ["a@b".toList, "y.c".toList] ∧
      ∀ t lt k, parseOnto [] t = (lt, .ok k) →
        ∃ l j, parseOnto [] ("Jo <a@b>, \\y.c (n)".toList ++ [',', ' '] ++ t) = (l, .ok j) ∧
          l.mailboxes = ls.mailboxes ++ lt.mailboxes := by
  have hs : parseOnto [] "Jo <a@b>, \\y.c (n)".toList =
      ([{ personal := some "Jo".toList, mailbox := some "a@b".toList },
        { personal := some "n".toList, mailbox := some "y.c".toList }], .ok 2) :=
    parseOnto_of_scan (by decide +kernel) (by decide +kernel) (by decide +kernel)
  exact ⟨_, hs, by decide, (parseOnto_joined hs).2 (by decide +kernel)⟩

/-- An escaped letter at the end of the first text: its backslash takes the comma as well, and the
    mailbox after it is lost. -/
theorem parseOnto_joined_escaped :
    ¬ ∀ (s t : Text) (ls lt : AddressList) (n k : Nat), s.getLast? ≠ some '\\' →
      parseOnto [] s = (ls, .ok n) → parseOnto [] t = (lt, .ok k) →
      ∃ l j, parseOnto [] (s ++ [',', ' '] ++ t) = (l, .ok j) ∧
        l.mailboxes = ls.mailboxes ++ lt.mailboxes := by
  intro h
  obtain ⟨l, j, hl, hmail⟩ := h ['\\', 'y'] ['z'] [.ofMailbox ['y']] [.ofMailbox ['z']] 1 1 (by decide)
    (parseOnto_of_scan (by decide +kernel) (by decide +kernel) (by decide +kernel))
    (parseOnto_of_scan (by decide +kernel) (by decide +kernel) (by decide +kernel))
  obtain ⟨d, hscan, rfl, _⟩ := parseOnto_eq_ok_iff.1 hl
  have hd := congrArg (fun r => r.1.entries.mailboxes) hscan
  rw [← hd] at hmail
  revert hmail
  decide +kernel

end AddressList
end Recipients
