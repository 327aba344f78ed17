import Mathlib.Algebra.GroupWithZero.Nat
import Mathlib.Data.List.Forall2
import Recipients.Proofs.Address.Marks
import Recipients.Proofs.AddressList.Legible

/-
  Which lists can be parsed, written and parsed again. Of the entries that reading yields exactly the
  legible ones are read back when they are written alone, and a list of legible entries is read
  back as a whole (`parseOnto_write_parsed`).

  That an illegible bare mailbox does not come back has one reason: the reader never makes quotes or
  backslashes, and it loses some where it takes a backslash for an escape or takes the quotes off a
  quoted string. So the mailboxes it yields have fewer of them than the one that was written.
-/

namespace Recipients
namespace AddressList

open Address (isGap isMark marks marks_nil marks_append marks_cons marks_quoted readComment_marks
  readQuoted_marks readToken_marks readAngle_marks PartOf Built LegibleBare LegibleAngle
  SameButSpacing IsDomainPart isOrdinary localAllowed domainAllowed Stops stops_cons)

/-! ## Quotes and backslashes -/

/-- The quotes and backslashes in the mailboxes of a list. -/
def mailboxMarks (l : AddressList) : Nat := (l.mailboxes.map marks).sum

theorem mailboxMarks_append (l m : AddressList) :
    mailboxMarks (l ++ m) = mailboxMarks l + mailboxMarks m := by
  rw [mailboxMarks, mailboxes_append, List.map_append, List.sum_append]
  rfl

theorem mailboxMarks_singleton {a : Address} {m : Text} (h : a.mailbox = some m) :
    mailboxMarks [a] = marks m := by
  simp [mailboxMarks, mailboxes, h]

namespace Draft

variable {d d' : Draft} {rest r m : Text}

/-- The quotes and backslashes a draft holds, those of its names and comments apart. -/
def weight (d : Draft) : Nat := mailboxMarks d.entries + marks d.phrase

theorem marks_joined (d : Draft) (spaced : Bool) : marks (d.joined spaced) = marks d.phrase := by
  unfold joined
  split
  · rw [marks_append]
    rfl
  · rfl

theorem close_marks (d : Draft) : mailboxMarks d.close.entries ≤ d.weight := by
  unfold close weight
  split
  · split
    · exact Nat.le_add_right _ _
    · rw [mailboxMarks, mailboxes_nameLast]
      exact Nat.le_add_right _ _
  · split
    · rename_i a hbare
      obtain ⟨m, hm, hle⟩ := Address.bareEntry?_marks hbare
      rw [mailboxMarks_append, mailboxMarks_singleton hm]
      exact Nat.add_le_add_left hle _
    · exact Nat.le_add_right _ _

/-- A backslash between entries is taken away. -/
theorem step_backslash_weight {gap : Bool} (h : d.step gap '\\' r = .ok (d', rest)) :
    d'.weight + marks rest < d.weight + marks ('\\' :: r) := by
  cases step_eq_ok_iff.1 h with
  | escape hread =>
    have hle := readToken_marks hread
    have hr : marks r = marks (r.take 1) + marks r.tail := by
      rw [← marks_append, ← List.drop_one, List.take_append_drop]
    simp only [weight, marks_append, marks_joined, marks_cons, show isMark '\\' = true from rfl,
      ↓reduceIte]
    omega
  | word hc => exact absurd (by decide) hc

/-- No step makes quotes or backslashes. -/
theorem step_weight {gap : Bool} {c : Char} (h : d.step gap c r = .ok (d', rest)) :
    d'.weight + marks rest ≤ d.weight + marks (c :: r) := by
  have hmark : marks r ≤ marks (c :: r) := Address.marks_of_suffix (List.suffix_cons ..)
  have hclose := close_marks d
  cases step_eq_ok_iff.1 h with
  | comma =>
    simp only [weight, clear, marks_nil] at *
    omega
  | semicolon =>
    have hend : mailboxMarks [Address.groupEnd] = 0 := rfl
    simp only [weight, push, marks_nil, mailboxMarks_append] at *
    omega
  | colon =>
    have hmarker : mailboxMarks [Address.groupMarker d.phrase] = 0 := rfl
    simp only [weight, push, marks_nil, mailboxMarks_append]
    omega
  | comment hread =>
    have := readComment_marks hread
    simp only [weight]
    omega
  | quote hread =>
    have := readQuoted_marks hread
    simp only [weight, marks_append, marks_joined, marks_cons, show isMark '"' = true from rfl,
      ↓reduceIte]
    split
    · rw [marks_quoted]
      omega
    · omega
  | angle hread =>
    obtain ⟨m, hm, hle⟩ := readAngle_marks hread
    simp only [weight, push, marks_nil, mailboxMarks_append, mailboxMarks_singleton hm]
    omega
  | escape => exact Nat.le_of_lt (step_backslash_weight h)
  | word _ hread =>
    have := readToken_marks hread
    simp only [weight, marks_append, marks_joined]
    omega

/-- Reading to the end makes no quotes or backslashes. -/
theorem scan_weight {cs : Text} (h : d.scan cs = (d', none)) :
    mailboxMarks d'.entries ≤ d.weight + marks cs := by
  fun_induction scan d cs with
  | case1 d cs hs =>
    cases h
    exact Nat.le_trans (close_marks d) (Nat.le_add_right _ _)
  | case2 d cs c r hs e hstep => cases h
  | case3 d cs c r hs d₁ rest hstep ih =>
    have := step_weight hstep
    have := Address.marks_skipGap hs
    have := ih h
    omega

/-! ## What is lost -/

/-- A text that the reader takes up to a backslash comes to fewer quotes and backslashes. -/
theorem marks_lt_of_backslash {phrase cs : Text}
    (hcs : Draft.scan { entries := [] } cs = Draft.scan { entries := [], phrase } ('\\' :: r))
    (hle : marks phrase + marks ('\\' :: r) ≤ marks cs)
    (h : Draft.scan { entries := [] } cs = (d', none)) : mailboxMarks d'.entries < marks cs := by
  rw [hcs] at h
  cases hstep : Draft.step { entries := [], phrase } false '\\' r with
  | error e =>
    rw [scan_error (Address.skipGap_cons rfl r) hstep] at h
    cases h
  | ok p =>
    obtain ⟨d₁, rest⟩ := p
    rw [scan_cons rfl hstep] at h
    have hlt := step_backslash_weight hstep
    have hscan := scan_weight h
    have hweight : weight { entries := [], phrase } = marks phrase := Nat.zero_add _
    omega

/-- So does a text with a quoted string that the reader takes out of its quotes. -/
theorem marks_lt_of_quoted {p : Text} (hp : ∀ c ∈ p, isOrdinary c = true ∨ c = '.') (s : Text)
    (hat : r.head? ≠ some '@')
    (h : Draft.scan { entries := [] } (p ++ (Address.quoted s ++ r)) = (d', none)) :
    mailboxMarks d'.entries < marks (p ++ (Address.quoted s ++ r)) := by
  have hstop : Stops (Address.quoted s ++ r) := stops_cons.2 (by decide)
  rw [scan_text (isWordStart_of_dots hp) hstop, scan_joined_quoted, if_neg (by simpa using hat)] at h
  have hscan := scan_weight h
  simp only [weight, marks_append, marks_joined, marks_nil, marks_quoted] at *
  have hnone : mailboxMarks [] = 0 := rfl
  omega

/-- A quoted string before the domain keeps its quotes, so the domain has to have a backslash. -/
theorem marks_lt_of_quotedLocal {p q : Text} (hp : ∀ c ∈ p, isOrdinary c = true ∨ c = '.') (s : Text)
    (hq : PartOf domainAllowed q) (hl : ¬ LegibleBare (p ++ (Address.quoted s ++ '@' :: q)))
    (h : Draft.scan { entries := [] } (p ++ (Address.quoted s ++ '@' :: q)) = (d', none)) :
    mailboxMarks d'.entries < marks (p ++ (Address.quoted s ++ '@' :: q)) := by
  rcases hq.domain_cases with hdom | ⟨q, r, hdom, rfl⟩
  · refine absurd ?_ hl
    by_cases hnil : p = []
    · subst hnil
      exact .wellFormed (.quotedLocal s hdom)
    · exact .prefixed ⟨hnil, hp⟩ s hdom
  · have hstop : Stops ('\\' :: r) := stops_cons.2 (by decide)
    refine marks_lt_of_backslash (scan_prefixed hp s hdom hstop rfl) ?_ h
    simp only [marks_append, marks_joined, marks_cons]
    omega

/-- A bare mailbox that is not legible comes to fewer quotes and backslashes than it has. -/
theorem marks_lt_of_not_legible (hm : Built m) (hne : m ≠ []) (hat : m.head? ≠ some '@')
    (hl : ¬ LegibleBare m) (h : Draft.scan { entries := [] } m = (d', none)) :
    mailboxMarks d'.entries < marks m := by
  -- up to the backslash the mailbox is collected as it stands
  have hback {p r : Text} (hp : ∀ c ∈ p, isGap c = false ∧ IsWordStart c) (hpr : m = p ++ '\\' :: r) :
      mailboxMarks d'.entries < marks m := by
    subst hpr
    have hstop : Stops ('\\' :: r) := stops_cons.2 (by decide)
    refine marks_lt_of_backslash (scan_text hp hstop) ?_ h
    exact Nat.le_of_eq (by rw [List.nil_append, marks_append])
  cases hm with
  | bare ht =>
    rcases ht.local_cases with hdots | ⟨p, r, hp, hr | ⟨s, rfl, hr⟩⟩
    · exact absurd (.wellFormed (.bare ⟨hne, hdots⟩)) hl
    · exact hback (isWordStart_of_dots hp) hr
    · exact marks_lt_of_quoted hp s hr.head_ne_at h
  | @qualified t q ht hq =>
    rcases ht.local_cases with hdots | ⟨p, r, hp, hr | ⟨s, rfl, hr⟩⟩
    · have hlocal : Address.IsLocalPart t := by
        refine ⟨?_, hdots⟩
        rintro rfl
        exact hat rfl
      rcases hq.domain_cases with hdom | ⟨p, r, hp, rfl⟩
      · exact absurd (.wellFormed (.qualified hlocal hdom)) hl
      · refine hback (p := t ++ '@' :: p) (r := r) ?_ (by simp)
        exact List.forall_mem_append.2
          ⟨isWordStart_of_isLocalPart hlocal, isWordStart_of_isDomainPart hp⟩
    · exact hback (p := p) (r := r ++ '@' :: q) (isWordStart_of_dots hp) (by simp [hr])
    · rw [List.append_assoc, List.append_assoc] at h hl ⊢
      cases r with
      | nil => exact marks_lt_of_quotedLocal hp s hq hl h
      | cons c r => exact marks_lt_of_quoted hp s hr.head_ne_at h

end Draft

/-! ## Lists -/

variable {l : AddressList} {a : Address}

/-- The written form of the list can be read, and it is read as the same entries in the same order,
    but for white space in names. -/
def Rereads (l : AddressList) : Prop :=
  ∃ l' n, parseOnto [] l.write = (l', .ok n) ∧ List.Forall₂ SameButSpacing l l'

theorem parseOnto_write_legible (hp : l.Parsed) (hl : ∀ a ∈ l, a.Legible) :
    parseOnto [] l.write = (l.map Address.reread, .ok l.countRecipients) := by
  have hnone : ∀ c ∈ ([] : Text), isGap c = true := fun _ h => (nomatch h)
  obtain ⟨d, hscan, hentries, hcount⟩ :=
    Draft.scan_write_as (fun a ha => Draft.enters_legible (hp a ha) (hl a ha)) [] 0 hnone
  rw [List.append_nil] at hscan
  exact parseOnto_eq_ok_iff.2 ⟨d, hscan, hentries, hcount.trans (Nat.zero_add _)⟩

theorem rereads_of_legible (hp : l.Parsed) (hl : ∀ a ∈ l, a.Legible) : Rereads l := by
  refine ⟨_, _, parseOnto_write_legible hp hl, ?_⟩
  rw [List.forall₂_map_right_iff]
  exact List.forall₂_same.2 fun a _ => Address.sameButSpacing_reread a

/-! ## Entries that are not read back -/

theorem scan_route {d : Draft} {q cs : Text} (hq : PartOf domainAllowed q) (hne : q ≠ [])
    (hd : d.comment = []) (hskip : Address.skipGap cs = Address.writeMailbox id true ('@' :: q)) :
    d.scan cs = (d, some .badRoute) := by
  have hopen : Address.writeMailbox id true ('@' :: q) = '<' :: '@' :: (q ++ ['>']) := by
    simp [Address.writeMailbox, hne]
  refine Draft.scan_error (hskip.trans hopen) ?_
  simp only [Draft.step, hd, Address.readAngle_of_head hq]

/-- An at sign at the head opens a route between the brackets, where such a mailbox is written. -/
theorem not_rereads_route {q : Text} {p : Option Text} (hq : PartOf domainAllowed q) (hne : q ≠ [])
    (hp : p ≠ some []) : ¬ Rereads [{ personal := p, mailbox := some ('@' :: q) }] := by
  rintro ⟨l', k, hread, -⟩
  rw [write_singleton] at hread
  obtain ⟨d, hscan, -, -⟩ := parseOnto_eq_ok_iff.1 hread
  cases p with
  | none =>
    have hwrite : Address.write { mailbox := some ('@' :: q) } =
        Address.writeMailbox id true ('@' :: q) := by
      rw [write_recipient rfl rfl]
      simp [Address.writeMailbox]
    have hskip : Address.skipGap (Address.writeMailbox id true ('@' :: q)) =
        Address.writeMailbox id true ('@' :: q) :=
      Address.skipGap_cons (by decide : isGap '<' = false) _
    rw [hwrite, scan_route hq hne rfl hskip] at hscan
    cases hscan
  | some n =>
    have hn : n ≠ [] := fun h => hp (congrArg some h)
    have hdetached : Draft.Detached (' ' :: Address.writeMailbox id true ('@' :: q)) :=
      (Draft.detached_angle _).space
    have hspace : Address.skipGap (' ' :: Address.writeMailbox id true ('@' :: q)) =
        Address.writeMailbox id true ('@' :: q) :=
      Address.skipGap_cons (by decide : isGap '<' = false) _
    rw [write_named_recipient rfl rfl hn,
      Draft.scan_name n rfl hdetached (stops_cons.2 (by decide)) (by simp),
      scan_route hq hne rfl hspace] at hscan
    cases hscan

/-- Without a name the empty mailbox is written as nothing, with a name as the null mailbox. -/
theorem not_rereads_empty {p : Option Text} (hp : p ≠ some []) :
    ¬ Rereads [{ personal := p, mailbox := some [] }] := by
  rintro ⟨l', k, hread, hsame⟩
  cases p with
  | none =>
    have hnil : parseOnto [] (write []) = ([], .ok 0) :=
      parseOnto_write_legible (fun _ h => (nomatch h)) fun _ h => (nomatch h)
    have hwrite : write [{ mailbox := some [] }] = write [] := rfl
    rw [hwrite, hnil] at hread
    cases hread
    cases hsame
  | some n =>
    have hnull : parseOnto [] (write [{ personal := some n, mailbox := some ['@'] }]) =
        ([Address.reread { personal := some n, mailbox := some ['@'] }], .ok 1) := by
      refine parseOnto_write_legible (fun a ha => ?_) fun a ha => ?_
      · rw [List.mem_singleton.1 ha]
        exact .recipient Address.built_null hp
      · rw [List.mem_singleton.1 ha]
        exact fun m hm => .inl (Option.some.inj hm).symm
    have hwrite : write [{ personal := some n, mailbox := some [] }] =
        write [{ personal := some n, mailbox := some ['@'] }] := by
      have hn : n ≠ [] := fun h => hp (congrArg some h)
      rw [write_singleton, write_singleton, write_named_recipient rfl rfl hn,
        write_named_recipient rfl rfl hn]
      rfl
    rw [hwrite, hnull] at hread
    cases hread
    obtain ⟨hmail, -⟩ := List.forall₂_cons.1 hsame
    cases hmail.mailbox

theorem not_rereads_bare {m : Text} (hm : Built m) (hne : m ≠ []) (hat : m.head? ≠ some '@')
    (hl : ¬ LegibleBare m) : ¬ Rereads [{ mailbox := some m }] := by
  rintro ⟨l', k, hread, hsame⟩
  have hwrite : write [{ mailbox := some m }] = m := by
    obtain ⟨c, r, rfl⟩ := List.exists_cons_of_ne_nil hne
    have hc : c ≠ '@' := fun h => hat (congrArg some h)
    rw [write_singleton, write_recipient rfl rfl]
    simp [Address.writeMailbox, hc]
  rw [hwrite] at hread
  obtain ⟨d, hscan, rfl, -⟩ := parseOnto_eq_ok_iff.1 hread
  have hlt := Draft.marks_lt_of_not_legible hm hne hat hl hscan
  have heq : mailboxMarks d.entries = marks m := by
    rcases List.forall₂_cons_left_iff.1 hsame with ⟨b, l, hb, hl, hentries⟩
    cases hl
    rw [hentries, mailboxMarks_singleton hb.mailbox.symm]
  omega

theorem legible_of_rereads (ha : a.Parsed) (h : Rereads [a]) : a.Legible := by
  cases ha with
  | terminator => exact fun m hm => (nomatch hm)
  | marker n => exact fun m hm => (nomatch hm)
  | @recipient m hm p hp =>
    intro m' hm'
    cases hm'
    by_cases hat : m.head? = some '@'
    · obtain ⟨q, rfl⟩ := List.head?_eq_some_iff.1 hat
      by_cases hq : q = []
      · subst hq
        split
        · exact .inl rfl
        · exact .wellFormed .null
      · exact absurd h (not_rereads_route hm.domain_of_head hq hp)
    have hne : m ≠ [] := by
      rintro rfl
      exact not_rereads_empty hp h
    cases p with
    | some n => exact .inr ⟨hne, hat⟩
    | none =>
      by_contra hl
      exact not_rereads_bare hm hne hat hl h

/-! ## Lists that were parsed -/

/-- Of the entries read from a text exactly the legible ones are read back when they are written
    alone, and if all are legible so is the list. -/
theorem parseOnto_write_parsed {t : Text} {n : Nat} (h : parseOnto [] t = (l, .ok n)) :
    ((∀ a ∈ l, a.Legible) → Rereads l) ∧ ∀ a ∈ l, Rereads [a] ↔ a.Legible := by
  have hp := parsed_of_parseOnto h
  refine ⟨rereads_of_legible hp, fun a ha => ⟨legible_of_rereads (hp a ha), fun hl => ?_⟩⟩
  refine rereads_of_legible (fun b hb => ?_) fun b hb => ?_
  · rw [List.mem_singleton.1 hb]
    exact hp a ha
  · rw [List.mem_singleton.1 hb]
    exact hl

/-- A name with two spaces in it, a group, words before a quoted local part, and a mailbox with a
    backslash that a name puts between angle brackets. -/
theorem parseOnto_write_parsed_group :
    ∃ l n, parseOnto [] "g: x.y@z (Jo  Doe); a\"b c\"@[1], \"D.\" <a\\b>".toList = (l, .ok n) ∧
      l = [.groupMarker ['g'], { personal := some "Jo  Doe".toList, mailbox := some "x.y@z".toList },
        .groupEnd, .ofMailbox "a\"b c\"@[1]".toList,
        { personal := some "D.".toList, mailbox := some "a\\b".toList }] ∧ Rereads l := by
  have hread : parseOnto [] "g: x.y@z (Jo  Doe); a\"b c\"@[1], \"D.\" <a\\b>".toList =
      ([.groupMarker ['g'], { personal := some "Jo  Doe".toList, mailbox := some "x.y@z".toList },
        .groupEnd, .ofMailbox "a\"b c\"@[1]".toList,
        { personal := some "D.".toList, mailbox := some "a\\b".toList }], .ok 3) :=
    parseOnto_of_scan (by decide +kernel) (by decide +kernel) (by decide +kernel)
  refine ⟨_, _, hread, rfl, (parseOnto_write_parsed hread).1 fun a ha => ?_⟩
  simp only [List.mem_cons, List.not_mem_nil, or_false] at ha
  rcases ha with rfl | rfl | rfl | rfl | rfl
  · exact fun _ h => (nomatch h)
  · exact fun m hm => Option.some.inj hm ▸ .inr (by decide)
  · exact fun _ h => (nomatch h)
  · exact fun m hm => Option.some.inj hm ▸ .prefixed (t := ['a']) (d := "[1]".toList) (by decide)
      "b c".toList (by decide)
  · exact fun m hm => Option.some.inj hm ▸ .inr (by decide)

/-- A local part of two quoted strings: written bare, the first one is taken out of its quotes, and
    the mail goes to another mailbox. -/
theorem parseOnto_write_two_quoted :
    ¬ ∀ (t : Text) (l : AddressList) (n : Nat), parseOnto [] t = (l, .ok n) → Rereads l := by
  intro h
  have hread : parseOnto [] "<\"a b\".\"c\"@x.org>".toList =
      ([.ofMailbox "\"a b\".\"c\"@x.org".toList], .ok 1) :=
    parseOnto_of_scan (by decide +kernel) (by decide +kernel) (by decide +kernel)
  have hagain : parseOnto [] (write [.ofMailbox "\"a b\".\"c\"@x.org".toList]) =
      ([.ofMailbox "ab.\"c\"@x.org".toList], .ok 1) :=
    parseOnto_of_scan (by decide +kernel) (by decide +kernel) (by decide +kernel)
  obtain ⟨l', n, hl', hsame⟩ := h _ _ _ hread
  rw [hagain] at hl'
  cases hl'
  have hmail := (List.forall₂_cons.1 hsame).1.mailbox
  revert hmail
  decide

end AddressList
end Recipients
