import Mathlib.Data.List.DropRight
import Recipients.Text

/-
  Joining texts and taking them apart again: pieces between separators, words between blanks, and
  lines.
-/

namespace Recipients
namespace Text

/-- What holds of the characters of a text can be checked one by one. -/
theorem forall_mem_of_all {P : Char → Prop} [DecidablePred P] {t : Text}
    (h : (t.all fun c => decide (P c)) = true) : ∀ c ∈ t, P c :=
  fun c hc => of_decide_eq_true (List.all_eq_true.1 h c hc)

/-! ## ASCII -/

theorem isAscii_iff {t : Text} : t.isAscii = true ↔ ∀ c ∈ t, c.toNat < 128 := by
  simp [isAscii]

theorem isAscii_nil : isAscii [] = true := rfl

theorem isAscii_append {s t : Text} :
    isAscii (s ++ t) = true ↔ s.isAscii = true ∧ t.isAscii = true := by
  rw [isAscii, List.all_append, Bool.and_eq_true]
  rfl

theorem toLower_lt_iff (c : Char) : c.toLower.toNat < 128 ↔ c.toNat < 128 := by
  unfold Char.toLower
  split
  · rename_i h
    have hle : c.val.toNat ≤ 90 := UInt32.le_iff_toNat_le.1 h.2
    have hshift : ('a'.val - 'A'.val).toNat = 32 := by decide
    have hlow : (c.val + ('a'.val - 'A'.val)).toNat < 128 := by
      rw [UInt32.toNat_add, hshift]
      omega
    exact iff_of_true hlow (Nat.lt_of_le_of_lt hle (by decide))
  · exact Iff.rfl

theorem isAscii_lower (t : Text) : (lower t).isAscii = t.isAscii := by
  unfold lower isAscii
  rw [List.all_map]
  exact congrArg t.all (funext fun c => decide_eq_decide.2 (toLower_lt_iff c))

theorem isAscii_of_alike {s t : Text} (h : s.alike t = true) (hs : s.isAscii = true) :
    t.isAscii = true := by
  rw [← isAscii_lower, ← alike_iff.1 h, isAscii_lower, hs]

theorem toLower_eq_at_iff (c : Char) : c.toLower = '@' ↔ c = '@' := by
  unfold Char.toLower
  split
  · rename_i h
    have hle : c.val.toNat ≤ 90 := UInt32.le_iff_toNat_le.1 h.2
    have hge : 65 ≤ c.val.toNat := UInt32.le_iff_toNat_le.1 h.1
    have hshift : ('a'.val - 'A'.val).toNat = 32 := by decide
    have hsum : (c.val + ('a'.val - 'A'.val)).toNat = c.val.toNat + 32 := by
      rw [UInt32.toNat_add, hshift]
      omega
    refine iff_of_false (fun hat => ?_) ?_
    · have hval : (c.val + ('a'.val - 'A'.val)).toNat = 64 := congrArg Char.toNat hat
      omega
    · rintro rfl
      exact absurd hge (by decide)
  · exact Iff.rfl

/-- Small letters have the at signs that the text has. -/
theorem at_mem_lower_iff {t : Text} : '@' ∈ lower t ↔ '@' ∈ t := by
  unfold lower
  rw [List.mem_map]
  constructor
  · rintro ⟨c, hc, hat⟩
    rwa [← (toLower_eq_at_iff c).1 hat]
  · intro h
    exact ⟨'@', h, rfl⟩

/-! ## Pieces -/

/-- Cutting at the last separator, where one is known to stand. -/
theorem cutLast_append (sep : Char) (s t : Text) : cutLast sep (s ++ sep :: t) =
    some (match cutLast sep t with
      | some p => (s ++ sep :: p.1, p.2)
      | none => (s, t)) := by
  induction s with
  | nil =>
    rw [List.nil_append, cutLast]
    cases cutLast sep t with
    | none => exact if_pos rfl
    | some p => rfl
  | cons c s ih =>
    rw [List.cons_append, cutLast, ih]
    cases cutLast sep t <;> rfl

theorem cutLast_eq_none_iff {sep : Char} {t : Text} : cutLast sep t = none ↔ sep ∉ t := by
  induction t with
  | nil => exact iff_of_true rfl List.not_mem_nil
  | cons c t ih =>
    rw [cutLast, List.mem_cons, not_or]
    cases h : cutLast sep t with
    | some p =>
      rw [h] at ih
      exact iff_of_false (fun h => nomatch h) fun hnot => nomatch ih.2 hnot.2
    | none =>
      rw [h] at ih
      by_cases hc : c = sep
      · simp [hc]
      · simpa [hc, Ne.symm hc] using ih

/-- What is cut at the last separator is put together again, and no separator stands behind it. -/
theorem cutLast_eq_some_iff {sep : Char} {t : Text} {p : Text × Text} :
    cutLast sep t = some p ↔ t = p.1 ++ sep :: p.2 ∧ sep ∉ p.2 := by
  constructor
  · intro h
    induction t generalizing p with
    | nil => cases h
    | cons c t ih =>
      rw [cutLast] at h
      cases hcut : cutLast sep t with
      | some q =>
        rw [hcut] at h
        obtain rfl := Option.some.inj h
        obtain ⟨hjoin, hnot⟩ := ih hcut
        exact ⟨congrArg (c :: ·) hjoin, hnot⟩
      | none =>
        rw [hcut] at h
        obtain ⟨rfl, hp⟩ := Option.ite_none_right_eq_some.1 h
        obtain rfl := Option.some.inj hp
        exact ⟨rfl, cutLast_eq_none_iff.1 hcut⟩
  · rintro ⟨rfl, hnot⟩
    rw [cutLast_append, cutLast_eq_none_iff.2 hnot]

/-- Cutting at the first separator, where none stands before it. -/
theorem cutFirst_append {sep : Char} {s : Text} (h : sep ∉ s) (t : Text) :
    cutFirst sep (s ++ sep :: t) = some (s, t) := by
  induction s with
  | nil => exact if_pos rfl
  | cons c s ih =>
    have hc : c ≠ sep := fun hc => h (hc ▸ List.mem_cons_self)
    rw [List.cons_append, cutFirst, if_neg hc, ih fun hmem => h (List.mem_cons_of_mem c hmem)]
    rfl

theorem join_nil (sep : Text) : join sep [] = [] := rfl

theorem join_cons (sep w : Text) (ws : List Text) :
    join sep (w :: ws) = w ++ ws.flatMap (sep ++ ·) := by
  induction ws generalizing w with
  | nil => simp [join, List.intercalate]
  | cons v ws ih =>
    have hstep : join sep (w :: v :: ws) = w ++ sep ++ join sep (v :: ws) := by
      simp [join, List.intercalate]
    rw [hstep, ih v, List.flatMap_cons, List.append_assoc, List.append_assoc]

theorem join_cons_cons (sep w v : Text) (ws : List Text) :
    join sep (w :: v :: ws) = w ++ (sep ++ join sep (v :: ws)) := by
  rw [join_cons, join_cons, List.flatMap_cons, List.append_assoc]

theorem mem_of_mem_join {sep : Text} {ws : List Text} {c : Char} (hc : c ∈ join sep ws) :
    c ∈ sep ∨ ∃ w ∈ ws, c ∈ w := by
  cases ws with
  | nil => cases hc
  | cons v ws =>
    rw [join_cons, List.mem_append, List.mem_flatMap] at hc
    rcases hc with hc | ⟨w, hw, hc⟩
    · exact .inr ⟨v, List.mem_cons_self, hc⟩
    · rcases List.mem_append.1 hc with hc | hc
      · exact .inl hc
      · exact .inr ⟨w, List.mem_cons_of_mem v hw, hc⟩

theorem isAscii_join {sep : Text} (hsep : sep.isAscii = true) {ws : List Text}
    (hws : ∀ w ∈ ws, w.isAscii = true) : (join sep ws).isAscii = true := by
  refine isAscii_iff.2 fun c hc => ?_
  rcases mem_of_mem_join hc with hc | ⟨w, hw, hc⟩
  · exact isAscii_iff.1 hsep c hc
  · exact isAscii_iff.1 (hws w hw) c hc

theorem splitWhen_ne_nil (sep : Char → Bool) (t : Text) : splitWhen sep t ≠ [] := by
  cases t with
  | nil => exact List.cons_ne_nil _ _
  | cons c t =>
    unfold splitWhen
    split
    · exact List.cons_ne_nil _ _
    · split <;> exact List.cons_ne_nil _ _

variable {sep : Char → Bool}

theorem splitWhen_cons_sep {c : Char} (hc : sep c = true) (t : Text) :
    splitWhen sep (c :: t) = [] :: splitWhen sep t := by
  rw [splitWhen, if_pos hc]

theorem splitWhen_cons {c : Char} (hc : sep c = false) {t p : Text} {ps : List Text}
    (h : splitWhen sep t = p :: ps) : splitWhen sep (c :: t) = (c :: p) :: ps := by
  rw [splitWhen, if_neg (by simp [hc]), h]

/-- Cutting at a separator: the pieces before it and the pieces after it. -/
theorem splitWhen_append {c : Char} (hc : sep c = true) (s t : Text) :
    splitWhen sep (s ++ c :: t) = splitWhen sep s ++ splitWhen sep t := by
  induction s with
  | nil => exact splitWhen_cons_sep hc t
  | cons d s ih =>
    rw [List.cons_append]
    cases hd : sep d with
    | true => rw [splitWhen_cons_sep hd, splitWhen_cons_sep hd, ih, List.cons_append]
    | false =>
      obtain ⟨p, ps, hs⟩ := List.exists_cons_of_ne_nil (splitWhen_ne_nil sep s)
      rw [hs, List.cons_append] at ih
      rw [splitWhen_cons hd ih, splitWhen_cons hd hs, List.cons_append]

theorem splitWhen_of_forall {w : Text} (h : ∀ c ∈ w, sep c = false) : splitWhen sep w = [w] := by
  induction w with
  | nil => rfl
  | cons c w ih =>
    exact splitWhen_cons (h c List.mem_cons_self) (ih fun d hd => h d (List.mem_cons_of_mem c hd))

theorem mem_splitWhen {t p : Text} (hp : p ∈ splitWhen sep t) :
    ∀ c ∈ p, c ∈ t ∧ sep c = false := by
  induction t generalizing p with
  | nil =>
    rw [splitWhen, List.mem_singleton] at hp
    subst hp
    exact fun _ h => (nomatch h)
  | cons d t ih =>
    have hmore {q : Text} (hq : q ∈ splitWhen sep t) : ∀ c ∈ q, c ∈ d :: t ∧ sep c = false :=
      fun c hc => ⟨List.mem_cons_of_mem d (ih hq c hc).1, (ih hq c hc).2⟩
    cases hd : sep d with
    | true =>
      rw [splitWhen_cons_sep hd] at hp
      rcases List.mem_cons.1 hp with rfl | hp
      · exact fun _ h => (nomatch h)
      · exact hmore hp
    | false =>
      obtain ⟨q, qs, hs⟩ := List.exists_cons_of_ne_nil (splitWhen_ne_nil sep t)
      rw [splitWhen_cons hd hs] at hp
      rcases List.mem_cons.1 hp with rfl | hp
      · intro c hc
        rcases List.mem_cons.1 hc with rfl | hc
        · exact ⟨List.mem_cons_self, hd⟩
        · exact hmore (hs ▸ List.mem_cons_self) c hc
      · exact hmore (hs ▸ List.mem_cons_of_mem q hp)

/-- Pieces without the separator are found again in what they were joined to. -/
theorem splitWhen_join {c : Char} {ps : List Text} (hne : ps ≠ [])
    (h : ∀ p ∈ ps, ∀ d ∈ p, sep d = false) (hc : sep c = true) :
    splitWhen sep (join [c] ps) = ps := by
  induction ps with
  | nil => exact absurd rfl hne
  | cons p ps ih =>
    have hp := splitWhen_of_forall (h p List.mem_cons_self)
    cases ps with
    | nil => rwa [join_cons, List.flatMap_nil, List.append_nil]
    | cons q qs =>
      have hqs := ih (List.cons_ne_nil q qs) fun r hr => h r (List.mem_cons_of_mem p hr)
      rw [join_cons_cons, List.singleton_append, splitWhen_append hc, hp, hqs,
        List.singleton_append]

theorem getLast?_append_of_eq_some {t : Text} {c : Char} (h : t.getLast? = some c) (s : Text) :
    (s ++ t).getLast? = some c := by
  rw [List.getLast?_append, h]
  rfl

/-! ## Words -/

theorem stretches_append {c : Char} (hc : sep c = true) (s t : Text) :
    stretches sep (s ++ c :: t) = stretches sep s ++ stretches sep t := by
  rw [stretches, splitWhen_append hc, List.filter_append]
  rfl

theorem stretches_of_forall {w : Text} (hne : w ≠ []) (h : ∀ c ∈ w, sep c = false) :
    stretches sep w = [w] := by
  rw [stretches, splitWhen_of_forall h]
  exact List.filter_cons_of_pos (by simpa using hne)

theorem mem_stretches {t w : Text} (h : w ∈ stretches sep t) :
    w ≠ [] ∧ ∀ c ∈ w, c ∈ t ∧ sep c = false := by
  obtain ⟨hw, hne⟩ := List.mem_filter.1 h
  exact ⟨by simpa using hne, mem_splitWhen hw⟩

theorem stretches_cons_sep {c : Char} (hc : sep c = true) (t : Text) :
    stretches sep (c :: t) = stretches sep t :=
  stretches_append hc [] t

/-- Stretches are found again in what they were joined to. -/
theorem stretches_join {c : Char} (hc : sep c = true) {ws : List Text}
    (h : ∀ w ∈ ws, w ≠ [] ∧ ∀ c ∈ w, sep c = false) : stretches sep (join [c] ws) = ws := by
  cases ws with
  | nil => rfl
  | cons w ws =>
    rw [stretches, splitWhen_join (List.cons_ne_nil w ws) (fun v hv => (h v hv).2) hc,
      List.filter_eq_self]
    intro v hv
    simpa using (h v hv).1

/-- Words are found again in what they were joined to. -/
theorem words_join {ws : List Text} (h : ∀ w ∈ ws, w ≠ [] ∧ ∀ c ∈ w, isBlank c = false) :
    words (join [' '] ws) = ws :=
  stretches_join rfl h

theorem trimEnd_of_forall {t : Text} (h : ∀ c ∈ t, isBlank c = false) : trimEnd t = t := by
  cases t with
  | nil => rfl
  | cons c t =>
    rw [trimEnd, if_neg (by simp [h c List.mem_cons_self]),
      trimEnd_of_forall fun d hd => h d (List.mem_cons_of_mem c hd)]

theorem trimStart_cons {c : Char} (hc : isBlank c = false) (t : Text) : trimStart (c :: t) = c :: t :=
  List.dropWhile_cons_of_neg (by simp [hc])

theorem trimEnd_concat {c : Char} (hc : isBlank c = true) (t : Text) :
    trimEnd (t ++ [c]) = trimEnd t := by
  induction t with
  | nil => simp [trimEnd, hc]
  | cons d t ih => rw [List.cons_append, trimEnd, trimEnd, ih]

theorem trim_trimStart (t : Text) : trim (trimStart t) = trim t := by
  exact congrArg trimEnd (List.dropWhile_idempotent isBlank t)

theorem trim_concat {c : Char} (hc : isBlank c = true) (t : Text) : trim (t ++ [c]) = trim t := by
  rw [trim, trim, trimStart, List.dropWhile_append, ← trimStart]
  split
  · rename_i h
    rw [List.isEmpty_iff.1 h, List.dropWhile_cons_of_pos hc]
    rfl
  · exact trimEnd_concat hc _

theorem trim_of_forall {t : Text} (h : ∀ c ∈ t, isBlank c = false) : trim t = t := by
  cases t with
  | nil => rfl
  | cons c t => rw [trim, trimStart_cons (h c List.mem_cons_self), trimEnd_of_forall h]

/-! ## Lines -/

theorem beforeSuffix?_eq_some_iff {last : Char} {t u : Text} :
    beforeSuffix? last t = some u ↔ t = u ++ [last] := by
  induction t generalizing u with
  | nil => simp [beforeSuffix?]
  | cons c t ih =>
    cases t with
    | nil =>
      rw [beforeSuffix?]
      split
      · rename_i h
        subst h
        cases u <;> simp
      · rename_i h
        cases u <;> simp [h]
    | cons d t =>
      rw [beforeSuffix?, Option.map_eq_some_iff]
      constructor
      · rintro ⟨v, hv, rfl⟩
        rw [ih.1 hv, List.cons_append]
      · intro h
        cases u with
        | nil => cases h
        | cons e u =>
          rw [List.cons_append, List.cons.injEq] at h
          obtain ⟨rfl, h⟩ := h
          exact ⟨u, ih.2 h, rfl⟩

theorem beforeSuffix?_eq_none_iff {last : Char} {t : Text} :
    beforeSuffix? last t = none ↔ t.getLast? ≠ some last := by
  rw [Option.eq_none_iff_forall_ne_some]
  constructor
  · intro h hlast
    obtain ⟨u, hu⟩ := List.getLast?_eq_some_iff.1 hlast
    exact h u (beforeSuffix?_eq_some_iff.2 hu)
  · intro h u hu
    rw [beforeSuffix?_eq_some_iff.1 hu, List.getLast?_concat] at h
    exact h rfl

/-- A line as it is read, without the carriage return that may end it. -/
def withoutReturn (p : Text) : Text := (beforeSuffix? '\r' p).getD p

theorem withoutReturn_of_getLast? {p : Text} (h : p.getLast? ≠ some '\r') : withoutReturn p = p := by
  rw [withoutReturn, beforeSuffix?_eq_none_iff.2 h]
  rfl

theorem eq_of_withoutReturn (p : Text) :
    (withoutReturn p = p ∧ p.getLast? ≠ some '\r') ∨ p = withoutReturn p ++ ['\r'] := by
  cases h : beforeSuffix? '\r' p with
  | none =>
    have hlast := beforeSuffix?_eq_none_iff.1 h
    exact .inl ⟨withoutReturn_of_getLast? hlast, hlast⟩
  | some u =>
    rw [withoutReturn, h]
    exact .inr (beforeSuffix?_eq_some_iff.1 h)

theorem lines_go_append (ps : List Text) {qs : List Text} (hqs : qs ≠ []) :
    lines.go (ps ++ qs) = ps.map withoutReturn ++ lines.go qs := by
  induction ps with
  | nil => rfl
  | cons p ps ih =>
    obtain ⟨q, rest, hcons⟩ := List.exists_cons_of_ne_nil (List.append_ne_nil_of_right_ne_nil ps hqs)
    rw [List.map_cons, List.cons_append, List.cons_append, ← ih, hcons]
    rfl

/-- The lines up to a line feed do not depend on what follows it. -/
theorem lines_append (s t : Text) :
    lines (s ++ '\n' :: t) = (splitWhen (· == '\n') s).map withoutReturn ++ lines t := by
  rw [lines, splitWhen_append rfl, lines_go_append _ (splitWhen_ne_nil _ t)]
  rfl

theorem lines_nil : lines [] = [] := rfl

/-- Text without a line feed, and a line feed after it, is one line. -/
theorem lines_of_not_mem {w : Text} (h : '\n' ∉ w) (t : Text) :
    lines (w ++ '\n' :: t) = withoutReturn w :: lines t := by
  have hw : ∀ c ∈ w, (c == '\n') = false := by
    intro c hc
    rw [beq_eq_false_iff_ne]
    rintro rfl
    exact h hc
  rw [lines_append, splitWhen_of_forall hw, List.map_singleton, List.singleton_append]

theorem lines_line {w : Text} (hfeed : '\n' ∉ w) (hreturn : w.getLast? ≠ some '\r') (t : Text) :
    lines (w ++ '\n' :: t) = w :: lines t := by
  rw [lines_of_not_mem hfeed, withoutReturn_of_getLast? hreturn]

/-- The text with a line feed at its end, unless it is empty. -/
def finished (t : Text) : Text :=
  match t.getLast? with
  | some c => if c = '\n' then t else t ++ ['\n']
  | none => t

theorem finished_cases (t : Text) :
    (t = [] ∧ finished t = []) ∨ (∃ s, t = s ++ ['\n'] ∧ finished t = t) ∨
      ∃ s c, t = s ++ [c] ∧ c ≠ '\n' ∧ finished t = t ++ ['\n'] := by
  unfold finished
  cases h : t.getLast? with
  | none => exact .inl ⟨List.getLast?_eq_none_iff.1 h, List.getLast?_eq_none_iff.1 h⟩
  | some c =>
    obtain ⟨s, hs⟩ := List.getLast?_eq_some_iff.1 h
    by_cases hc : c = '\n'
    · subst hc
      exact .inr (.inl ⟨s, hs, if_pos rfl⟩)
    · exact .inr (.inr ⟨s, c, hs, hc, if_neg hc⟩)

/-- What follows a finished text does not change its lines. -/
theorem lines_finished_append (t r : Text) :
    lines (finished t ++ r) = lines (finished t) ++ lines r := by
  rcases finished_cases t with ⟨_, hf⟩ | ⟨s, hs, hf⟩ | ⟨s, c, _, _, hf⟩
  · rw [hf]
    rfl
  · rw [hf, hs, List.append_assoc, List.singleton_append, lines_append, lines_append, lines_nil,
      List.append_nil]
  · rw [hf, List.append_assoc, List.singleton_append, lines_append, lines_append, lines_nil,
      List.append_nil]

/-- One more character belongs to the last piece. -/
theorem splitWhen_concat (sep : Char → Bool) {c : Char} (hc : sep c = false) (t : Text) :
    ∃ ps p, splitWhen sep t = ps ++ [p] ∧ splitWhen sep (t ++ [c]) = ps ++ [p ++ [c]] := by
  induction t with
  | nil => exact ⟨[], [], rfl, splitWhen_cons hc rfl⟩
  | cons d t ih =>
    obtain ⟨ps, p, ht, hconcat⟩ := ih
    rw [List.cons_append]
    cases hd : sep d with
    | true =>
      refine ⟨[] :: ps, p, ?_, ?_⟩
      · rw [splitWhen_cons_sep hd, ht, List.cons_append]
      · rw [splitWhen_cons_sep hd, hconcat, List.cons_append]
    | false =>
      cases ps with
      | nil => exact ⟨[], d :: p, splitWhen_cons hd ht, splitWhen_cons hd hconcat⟩
      | cons q ps => exact ⟨(d :: q) :: ps, p, splitWhen_cons hd ht, splitWhen_cons hd hconcat⟩

/-- A text that does not end in a line feed has a last line, which may end in a carriage return.
    Finishing the text takes that away. -/
theorem lines_finished_concat {c : Char} (hc : c ≠ '\n') (t : Text) :
    ∃ ls p, lines (t ++ [c]) = ls ++ [p ++ [c]] ∧
      lines (finished (t ++ [c])) = ls ++ [withoutReturn (p ++ [c])] := by
  obtain ⟨ps, p, _, hsplit⟩ := splitWhen_concat (· == '\n') (beq_eq_false_iff_ne.2 hc) t
  have hfinished : finished (t ++ [c]) = t ++ [c] ++ '\n' :: [] := by
    rw [finished, List.getLast?_concat]
    exact if_neg hc
  refine ⟨ps.map withoutReturn, p, ?_, ?_⟩
  · rw [lines, hsplit, lines_go_append ps (List.cons_ne_nil _ _)]
    simp [lines.go]
  · rw [hfinished, lines_append, hsplit, List.map_append, List.map_singleton, lines_nil,
      List.append_nil]

/-- Unless its last line ends in a carriage return, finishing a text does not change its lines. -/
theorem lines_finished {t : Text} (h : t.getLast? ≠ some '\r') : lines (finished t) = lines t := by
  rcases finished_cases t with ⟨ht, hf⟩ | ⟨s, _, hf⟩ | ⟨s, c, rfl, hc, _⟩
  · rw [hf, ht]
  · rw [hf]
  · obtain ⟨ls, p, hlines, hfinished⟩ := lines_finished_concat hc s
    rw [hlines, hfinished, withoutReturn_of_getLast?]
    rw [List.getLast?_concat] at h ⊢
    exact h

end Text
end Recipients
