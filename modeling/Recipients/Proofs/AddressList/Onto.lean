import Mathlib.Data.List.Basic
import Recipients.Proofs.AddressList.Parsed

/-
  Reading onto a list that has entries. What the text yields comes behind them and is what it yields on
  its own, an error included (`parseOnto_eq`, `parseFreeOnto_eq`).

  One thing reaches back. A comment that stands alone names the entry before it, and the reader looks
  for that entry in the whole list, not in what it has read: a comment from before the first entry of
  the text names the last entry of the list, for good, also if the reading fails later. The list stays
  as it was exactly if there is no such comment or nothing for it to name (`parseOnto_keeps`);
  `parseOnto_names_failed` is a failed reading after which a name is left.
-/

namespace Recipients

namespace Address

/-- A mailbox that a comment can give a name. -/
def Unnamed (a : Address) : Prop := a.personal = none ∧ ∃ m, a.mailbox = some m ∧ m ≠ []

/-- The entry, with the comment for a name if it can be given one. -/
def named (comment : Text) (a : Address) : Address :=
  if a.personal.isNone && a.mailbox.any (fun m => !m.isEmpty) then { a with personal := some comment }
  else a

variable {a : Address} {comment : Text}

theorem unnamed_iff :
    (a.personal.isNone && a.mailbox.any fun m => !m.isEmpty) = true ↔ a.Unnamed := by
  cases hm : a.mailbox <;> simp [Unnamed, hm]

theorem named_of_unnamed (h : a.Unnamed) : a.named comment = { a with personal := some comment } :=
  if_pos (unnamed_iff.2 h)

theorem named_of_not_unnamed (h : ¬ a.Unnamed) : a.named comment = a :=
  if_neg fun hcond => h (unnamed_iff.1 hcond)

theorem not_unnamed_named : ¬ (a.named comment).Unnamed := by
  by_cases h : a.Unnamed
  · rw [named_of_unnamed h]
    exact fun hnamed => nomatch hnamed.1
  · rwa [named_of_not_unnamed h]

theorem named_eq_self_iff : a.named comment = a ↔ ¬ a.Unnamed := by
  constructor
  · intro h
    rw [← h]
    exact not_unnamed_named
  · exact named_of_not_unnamed

end Address

namespace AddressList

open Address (isGap isSpecial isOrdinary_iff skipGap skipGap_head readToken_special readToken_run
  exists_run)

variable {l m : AddressList} {comment comment' : Text}

/-! ## Naming the last entry -/

theorem nameLast_concat (l : AddressList) (a : Address) :
    nameLast comment (l ++ [a]) = l ++ [a.named comment] := by
  induction l with
  | nil =>
    rw [List.nil_append, nameLast, Address.named]
    split <;> rfl
  | cons b l ih =>
    obtain ⟨c, r, hl⟩ := List.exists_cons_of_ne_nil (List.concat_ne_nil a l)
    rw [hl] at ih
    rw [List.cons_append, hl, nameLast, ih, List.cons_append]

theorem nameLast_append (l : AddressList) (h : m ≠ []) :
    nameLast comment (l ++ m) = l ++ nameLast comment m := by
  obtain ⟨m', a, rfl⟩ := List.eq_nil_or_concat' m |>.resolve_left h
  rw [← List.append_assoc, nameLast_concat, nameLast_concat, List.append_assoc]

/-- A name that was given stays. -/
theorem nameLast_nameLast (l : AddressList) :
    nameLast comment' (nameLast comment l) = nameLast comment l := by
  rcases List.eq_nil_or_concat' l with rfl | ⟨l', a, rfl⟩
  · rfl
  · rw [nameLast_concat, nameLast_concat, Address.named_eq_self_iff.2 Address.not_unnamed_named]

theorem nameLast_eq_self_iff : nameLast comment l = l ↔ ∀ a ∈ l.getLast?, ¬ a.Unnamed := by
  rcases List.eq_nil_or_concat' l with rfl | ⟨l', a, rfl⟩
  · simp [nameLast]
  · rw [nameLast_concat, List.append_cancel_left_eq, List.getLast?_concat]
    simp [Address.named_eq_self_iff]

/-- Names the last entry, if there is a comment for it. -/
def nameLastBy (comment : Option Text) (l : AddressList) : AddressList :=
  match comment with
  | some c => nameLast c l
  | none => l

theorem nameLastBy_or (c c' : Option Text) (l : AddressList) :
    nameLastBy c' (nameLastBy c l) = nameLastBy (c.or c') l := by
  cases c with
  | none => rfl
  | some c =>
    cases c' with
    | none => rfl
    | some c' => exact nameLast_nameLast l

theorem length_nameLastBy (c : Option Text) (l : AddressList) : (nameLastBy c l).length = l.length := by
  cases c with
  | none => rfl
  | some c => exact length_nameLast c l

namespace Draft

variable {d d' : Draft} {gap : Bool} {c : Char} {cs r rest : Text}

/-! ## Comments that name an entry from before -/

/-- The comment that the end of an entry would give to an entry from before: no words are collected
    and nothing has been read. -/
def loneComment (d : Draft) : Option Text :=
  if d.entries = [] ∧ d.phrase = [] ∧ d.comment ≠ [] then some d.comment else none

/-- The comment that a character gives to an entry from before, when it is taken up. -/
def commentAt (d : Draft) (c : Char) : Option Text :=
  if c = ',' ∨ c = ';' then d.loneComment else none

/-- The comment by which the reading of a text names an entry from before. -/
def naming (d : Draft) (cs : Text) : Option Text :=
  match _h : skipGap cs with
  | [] => d.loneComment
  | c :: r =>
    match _hs : d.step (cs.head?.any isGap) c r with
    | .error _ => none
    | .ok (d', rest) => (d.commentAt c).or (d'.naming rest)
termination_by cs.length
decreasing_by exact rest_length_lt _h _hs

theorem naming_end (h : skipGap cs = []) : d.naming cs = d.loneComment := by
  rw [naming]
  split
  · rfl
  · rename_i h'
    rw [h] at h'
    cases h'

theorem naming_step (h : skipGap cs = c :: r) (hs : d.step (cs.head?.any isGap) c r = .ok (d', rest)) :
    d.naming cs = (d.commentAt c).or (d'.naming rest) := by
  rw [naming]
  split
  · rename_i h'
    rw [h] at h'
    cases h'
  · rename_i h'
    rw [h] at h'
    cases h'
    split
    · rename_i hs'
      rw [hs] at hs'
      cases hs'
    · rename_i hs'
      rw [hs] at hs'
      cases hs'
      rfl

theorem naming_error {e : ParseError} (h : skipGap cs = c :: r)
    (hs : d.step (cs.head?.any isGap) c r = .error e) : d.naming cs = none := by
  rw [naming]
  split
  · rename_i h'
    rw [h] at h'
    cases h'
  · rename_i h'
    rw [h] at h'
    cases h'
    split
    · rfl
    · rename_i hs'
      rw [hs] at hs'
      cases hs'

/-! ## Drafts with entries from before -/

/-- The draft of the same list after the entries `before`. -/
def onto (before : AddressList) (d : Draft) : Draft := { d with entries := before ++ d.entries }

theorem onto_push (before : AddressList) (d : Draft) (a : Address) (counted : Nat) :
    (d.onto before).push a counted = (d.push a counted).onto before := by
  simp only [push, onto, List.append_assoc]

theorem onto_close (before : AddressList) (d : Draft) :
    (d.onto before).close = d.close.onto (nameLastBy d.loneComment before) := by
  by_cases hphrase : d.phrase = []
  · by_cases hcomment : d.comment = []
    · simp [close, onto, loneComment, nameLastBy, hphrase, hcomment]
    · by_cases hentries : d.entries = []
      · simp [close, onto, loneComment, nameLastBy, hphrase, hcomment, hentries, nameLast]
      · simp [close, onto, loneComment, nameLastBy, hphrase, hcomment, hentries,
          nameLast_append before hentries]
  · have hlone : d.loneComment = none := if_neg fun h => hphrase h.2.1
    have hphrase' : d.phrase.isEmpty = false := by simpa using hphrase
    rw [hlone, close, close]
    simp only [onto, hphrase', Bool.false_eq_true, ↓reduceIte]
    cases Address.bareEntry? d.phrase d.comment with
    | none => rfl
    | some a => simp [nameLastBy, List.append_assoc]

/-- A step does the same after other entries, but for a comment that names the last of them. -/
theorem Takes.onto (h : Takes d gap c r d' rest) (before : AddressList) :
    Takes (d.onto before) gap c r (d'.onto (nameLastBy (d.commentAt c) before)) rest := by
  cases h with
  | comma =>
    have hclose : d.close.clear.onto (nameLastBy d.loneComment before) = (d.onto before).close.clear := by
      rw [onto_close]
      rfl
    rw [commentAt, if_pos (.inl rfl), hclose]
    exact .comma r
  | semicolon =>
    rw [commentAt, if_pos (.inr rfl), ← onto_push, ← onto_close]
    exact .semicolon r
  | colon =>
    rw [commentAt, if_neg (by decide), ← onto_push]
    exact .colon r
  | comment hread =>
    rw [commentAt, if_neg (by decide)]
    exact .comment hread
  | quote hread =>
    rw [commentAt, if_neg (by decide)]
    exact .quote hread
  | angle hread =>
    rw [commentAt, if_neg (by decide), ← onto_push]
    exact .angle hread
  | escape hread =>
    rw [commentAt, if_neg (by decide)]
    exact .escape hread
  | word hc hread =>
    have hsep : ¬ (c = ',' ∨ c = ';') := by
      rintro (rfl | rfl)
      · exact hc (by decide)
      · exact hc (by decide)
    rw [commentAt, if_neg hsep]
    exact .word hc hread

theorem follows_onto (before : AddressList) (d : Draft) : Follows before.mailboxes (d.onto before) d :=
  ⟨rfl, rfl, mailboxes_append before d.entries⟩

theorem step_onto_error {e : ParseError} (h : d.step gap c r = .error e) (before : AddressList) :
    (d.onto before).step gap c r = .error e := by
  have hsame := (follows_onto before d).step gap c r
  rw [h] at hsame
  cases hstep : (d.onto before).step gap c r with
  | error e' =>
    rw [hstep] at hsame
    exact congrArg Except.error hsame
  | ok p =>
    rw [hstep] at hsame
    exact hsame.elim

/-- Reading after other entries is reading, but for the comment that names the last of them. -/
theorem scan_onto (before : AddressList) (d : Draft) (cs : Text) :
    (d.onto before).scan cs =
      ((d.scan cs).1.onto (nameLastBy (d.naming cs) before), (d.scan cs).2) := by
  fun_induction scan d cs generalizing before with
  | case1 d cs hs => rw [scan_end hs, naming_end hs, onto_close]
  | case2 d cs c r hs e hstep =>
    rw [scan_error hs (step_onto_error hstep before), naming_error hs hstep]
    rfl
  | case3 d cs c r hs d' rest hstep ih =>
    have honto := (step_eq_ok_iff.1 hstep).onto before
    rw [scan_step hs (step_eq_ok_iff.2 honto), ih, naming_step hs hstep, nameLastBy_or]

/-! ## Text without structure -/

theorem isWordStart_of_not_structural (hc : structural.contains c = false) : IsWordStart c := by
  intro hmem
  have hstruct : ∀ x ∈ [',', ';', ':', '(', '"', '<', '\\'], structural.contains x = true :=
    Text.forall_mem_of_all (by decide)
  rw [hstruct c hmem] at hc
  cases hc

/-- A character that is not structural begins a word, the same one in every draft. -/
theorem step_plain (hc : structural.contains c = false) (hgap : isGap c = false) (r : Text) :
    ∃ t rest, c :: r = t ++ rest ∧ ∀ (d : Draft) (gap : Bool),
      d.step gap c r = .ok ({ d with phrase := d.joined gap ++ t }, rest) := by
  have hstart := isWordStart_of_not_structural hc
  cases hspecial : isSpecial c with
  | true =>
    have hparen : c ≠ '(' := by
      rintro rfl
      exact hstart (by decide)
    have hquote : c ≠ '"' := by
      rintro rfl
      exact hstart (by decide)
    exact ⟨[c], r, rfl, fun d gap => step_word gap hstart (readToken_special hspecial hparen hquote r)⟩
  | false =>
    obtain ⟨w, u, hcr, hne, hw, hstop, -, -⟩ := exists_run (isOrdinary_iff.2 ⟨hgap, hspecial⟩) r
    have hread := readToken_run hne hw hstop
    rw [← hcr] at hread
    exact ⟨w, u, hcr, fun d gap => step_word gap hstart hread⟩

/-- Behind a word in text without structural characters there is again such text. -/
theorem step_plain_skipGap (hcs : ∀ c ∈ cs, structural.contains c = false) (hs : skipGap cs = c :: r) :
    ∃ t rest, c :: r = t ++ rest ∧ (∀ x ∈ rest, structural.contains x = false) ∧
      ∀ (d : Draft) (gap : Bool), d.step gap c r = .ok ({ d with phrase := d.joined gap ++ t }, rest) := by
  have hplain : ∀ x ∈ c :: r, structural.contains x = false := fun x hx =>
    hcs x ((Address.suffix_of_skipGap hs).subset hx)
  obtain ⟨t, rest, hcr, hword⟩ := step_plain (hplain c List.mem_cons_self) (skipGap_head hs) r
  refine ⟨t, rest, hcr, fun x hx => hplain x ?_, hword⟩
  rw [hcr]
  exact List.mem_append_right t hx

theorem naming_plain (hcs : ∀ c ∈ cs, structural.contains c = false) (hd : d.comment = []) :
    d.naming cs = none := by
  have hlone {d : Draft} (hd : d.comment = []) : d.loneComment = none := if_neg fun h => h.2.2 hd
  fun_induction naming d cs with
  | case1 d cs hs => exact hlone hd
  | case2 => rfl
  | case3 d cs c r hs d' rest hstep ih =>
    obtain ⟨t, rest', -, hrest, hword⟩ := step_plain_skipGap hcs hs
    rw [hword] at hstep
    cases hstep
    have hnone : d.commentAt c = none := by
      rw [commentAt, hlone hd, ite_self]
    rw [hnone, Option.none_or]
    exact ih hrest hd

end Draft

/-! ## Reading onto a list -/

/-- The comment by which a text names an entry that stands before it. -/
def naming (t : Text) : Option Text := Draft.naming { entries := [] } t

theorem parseOnto_nil_error {t : Text} {e : ParseError} (h : (parseOnto [] t).2 = .error e) :
    (parseOnto [] t).1 = [] := by
  unfold parseOnto at h ⊢
  split at h
  · cases h
  · rfl

/-- What a text yields comes after the list, whose last entry gets the comment that the text has for
    it. -/
theorem parseOnto_eq (l : AddressList) (t : Text) :
    parseOnto l t = (nameLastBy (naming t) l ++ (parseOnto [] t).1, (parseOnto [] t).2) := by
  have hscan := Draft.scan_onto l { entries := [] } t
  have hstart : Draft.onto l { entries := [] } = { entries := l } := by
    rw [Draft.onto, List.append_nil]
  rw [hstart] at hscan
  unfold parseOnto
  rw [hscan]
  cases hown : Draft.scan { entries := [] } t with
  | mk d e =>
    cases e with
    | none => rfl
    | some e =>
      have htake : (nameLastBy (naming t) l ++ d.entries).take l.length = nameLastBy (naming t) l :=
        List.take_left' (length_nameLastBy _ l)
      simp only [Draft.onto, List.length_nil, List.take_zero, List.append_nil]
      rw [← naming, htake]

theorem naming_plain {t : Text} (ht : ∀ c ∈ t, structural.contains c = false) : naming t = none :=
  Draft.naming_plain ht rfl

theorem parseOnto_plain {t : Text} (ht : ∀ c ∈ t, structural.contains c = false) (l : AddressList) :
    parseOnto l t = (l ++ (parseOnto [] t).1, (parseOnto [] t).2) := by
  rw [parseOnto_eq, naming_plain ht]
  rfl

theorem parseWordsOnto_append {ws : List Text}
    (hws : ∀ w ∈ ws, ∀ c ∈ w, structural.contains c = false) (l m : AddressList) (n : Nat) :
    parseWordsOnto (l ++ m) n ws = (l ++ (parseWordsOnto m n ws).1, (parseWordsOnto m n ws).2) := by
  induction ws generalizing m n with
  | nil => rfl
  | cons w ws ih =>
    obtain ⟨hw, hws⟩ := List.forall_mem_cons.1 hws
    rw [parseWordsOnto, parseWordsOnto, parseOnto_plain hw, parseOnto_plain hw m]
    cases (parseOnto [] w).2 with
    | error e => simp [List.append_assoc]
    | ok k =>
      rw [List.append_assoc]
      exact ih hws _ _

/-- Free text is read onto a list in the same way. -/
theorem parseFreeOnto_eq (l : AddressList) (t : Text) :
    parseFreeOnto l t =
      (nameLastBy (naming t) l ++ (parseFreeOnto [] t).1, (parseFreeOnto [] t).2) := by
  unfold parseFreeOnto
  split
  · exact parseOnto_eq l t
  · rename_i hplain
    have ht : ∀ c ∈ t, structural.contains c = false := by simpa using hplain
    have hws : ∀ w ∈ Text.stretches (fun c => c == ' ' || c == '\t') t, ∀ c ∈ w,
        structural.contains c = false := by
      intro w hw c hc
      exact ht c ((Text.mem_stretches hw).2 c hc).1
    have hwords := parseWordsOnto_append hws l [] 0
    rw [List.append_nil] at hwords
    rw [naming_plain ht, hwords]
    cases parseWordsOnto [] 0 (Text.stretches (fun c => c == ' ' || c == '\t') t) with
    | mk own result =>
      cases result with
      | ok n => rfl
      | error e => simp [nameLastBy]

theorem parseFreeOnto_nil_error {t : Text} {e : ParseError} (h : (parseFreeOnto [] t).2 = .error e) :
    (parseFreeOnto [] t).1 = [] := by
  rw [parseFreeOnto] at h ⊢
  by_cases hplain : t.any fun c => structural.contains c
  · rw [if_pos hplain] at h ⊢
    exact parseOnto_nil_error h
  · rw [if_neg hplain] at h ⊢
    cases hwords : parseWordsOnto [] 0 (Text.stretches (fun c => c == ' ' || c == '\t') t) with
    | mk own result =>
      rw [hwords] at h
      cases result with
      | ok n => cases h
      | error e' => rfl

theorem read_eq {read : AddressList → Text → AddressList × Except ParseError Nat}
    (hread : read ∈ [parseOnto, parseFreeOnto]) (l : AddressList) (t : Text) :
    read l t = (nameLastBy (naming t) l ++ (read [] t).1, (read [] t).2) := by
  simp only [List.mem_cons, List.not_mem_nil, or_false] at hread
  rcases hread with rfl | rfl
  · exact parseOnto_eq l t
  · exact parseFreeOnto_eq l t

/-- The entries behind those of the list are what the text yields on its own. -/
theorem read_nil_eq_drop {read : AddressList → Text → AddressList × Except ParseError Nat}
    (hread : read ∈ [parseOnto, parseFreeOnto]) {l m : AddressList} {t : Text} {n : Nat}
    (h : read l t = (m, .ok n)) : read [] t = (m.drop l.length, .ok n) := by
  have heq := read_eq hread l t
  rw [h, Prod.mk.injEq] at heq
  obtain ⟨hm, hn⟩ := heq
  have hdrop : m.drop l.length = (read [] t).1 := by
    rw [hm]
    exact List.drop_left' (length_nameLastBy _ l)
  rw [hdrop, hn]

/-- So every entry that is added is one that reading can yield. -/
theorem parsed_drop {read : AddressList → Text → AddressList × Except ParseError Nat}
    (hread : read ∈ [parseOnto, parseFreeOnto]) {l m : AddressList} {t : Text} {n : Nat}
    (h : read l t = (m, .ok n)) : Parsed (m.drop l.length) := by
  have hown := read_nil_eq_drop hread h
  simp only [List.mem_cons, List.not_mem_nil, or_false] at hread
  rcases hread with rfl | rfl
  · exact parsed_of_parseOnto hown
  · exact parsed_of_parseFreeOnto hown

/-! ## What stays of the list -/

/-- A reading keeps the list: as it was, if the text cannot be read, and else with the entries after it
    that the text yields on its own. -/
def Keeps (read : AddressList → Text → AddressList × Except ParseError Nat) (l : AddressList)
    (t : Text) : Prop :=
  match read l t with
  | (l', .error _) => l' = l
  | (l', .ok _) => ∃ own n, read [] t = (own, .ok n) ∧ l' = l ++ own

/-- A comment in the text names the last entry of the list. -/
def NamesEarlier (l : AddressList) (t : Text) : Prop :=
  (naming t).isSome ∧ ∃ a ∈ l.getLast?, a.Unnamed

theorem nameLastBy_eq_self_iff {l : AddressList} {t : Text} :
    nameLastBy (naming t) l = l ↔ ¬ NamesEarlier l t := by
  unfold NamesEarlier nameLastBy
  cases naming t with
  | none => simp
  | some c => simpa using nameLast_eq_self_iff

theorem keeps_iff {read : AddressList → Text → AddressList × Except ParseError Nat} {l : AddressList}
    {t : Text} (hread : read l t = (nameLastBy (naming t) l ++ (read [] t).1, (read [] t).2))
    (herror : ∀ e, (read [] t).2 = .error e → (read [] t).1 = []) :
    Keeps read l t ↔ ¬ NamesEarlier l t := by
  rw [← nameLastBy_eq_self_iff, Keeps, hread]
  cases hown : read [] t with
  | mk own result =>
    rw [hown] at herror
    cases result with
    | error e =>
      obtain rfl : own = [] := herror e rfl
      rw [List.append_nil]
    | ok n => simp

/-- Reading strictly and reading free text keep a list exactly if no comment in the text names its last
    entry. If one does, only that name is changed, whether the rest of the text can be read or not. -/
theorem parseOnto_keeps (l : AddressList) (t : Text) :
    (Keeps parseOnto l t ↔ ¬ NamesEarlier l t) ∧ (Keeps parseFreeOnto l t ↔ ¬ NamesEarlier l t) ∧
    parseOnto l t = (nameLastBy (naming t) l ++ (parseOnto [] t).1, (parseOnto [] t).2) ∧
    parseFreeOnto l t =
      (nameLastBy (naming t) l ++ (parseFreeOnto [] t).1, (parseFreeOnto [] t).2) :=
  ⟨keeps_iff (parseOnto_eq l t) fun _ => parseOnto_nil_error,
    keeps_iff (parseFreeOnto_eq l t) fun _ => parseFreeOnto_nil_error,
    parseOnto_eq l t, parseFreeOnto_eq l t⟩

/-- A comment, a comma and a quote that does not close: the text cannot be read, and the entry from
    before has the comment for a name. -/
theorem parseOnto_names_failed : ¬ ∀ (l : AddressList) (t : Text), Keeps parseOnto l t := by
  intro h
  have hkeeps := h [.ofMailbox ['a', '@', 'x']] ['(', 'n', ')', ',', '"']
  have hread : parseOnto [.ofMailbox ['a', '@', 'x']] ['(', 'n', ')', ',', '"'] =
      ([{ personal := some ['n'], mailbox := some ['a', '@', 'x'] }], .error .mismatchedQuote) := by
    decide +kernel
  rw [Keeps, hread] at hkeeps
  revert hkeeps
  decide

end AddressList
end Recipients
