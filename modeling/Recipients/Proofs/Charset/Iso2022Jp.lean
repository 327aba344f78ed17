import Recipients.Proofs.Charset.Japanese

/-
  ISO-2022-JP. What has been read leaves a set of characters current, and what follows is read in it
  (`Reads.decodeIn_append`). A text is written for readers who are in ASCII; readers who are in the roman
  set read a yen sign and an overline for the backslash and the tilde, up to the first character that is
  not in ASCII (`decodeIn_roman`).
-/

namespace Recipients.Charset.Iso2022Jp

/-! ## What is read -/

/-- Bytes that are read as a text, from a set of characters on up to another one. The flags say whether
    nothing was read since the last escape sequence. -/
inductive Reads : Mode → Bool → Bytes → Text → Mode → Bool → Prop where
  | done {m : Mode} {switched : Bool} : Reads m switched [] [] m switched
  | switch {m m' n : Mode} {s : Bool} {a b : UInt8} {r : Bytes} {t : Text} (set : mode? a b = some m')
    (rest : Reads m' true r t n s) : Reads m false (0x1B :: a :: b :: r) t n s
  | single {m n : Mode} {switched s : Bool} {b : UInt8} {r : Bytes} {c : Char} {t : Text}
    (plain : b ≠ 0x1B) (set : m ≠ .kanji) (char : single? m b = some c) (rest : Reads m false r t n s) :
    Reads m switched (b :: r) (c :: t) n s
  | pair {n : Mode} {switched s : Bool} {a b : UInt8} {r : Bytes} {c : Char} {t : Text}
    (plain : a ≠ 0x1B) (range : (inRange a && inRange b) = true)
    (char : Index.jis0208.char? ((a.toNat - 0x21) * 94 + (b.toNat - 0x21)) = some c)
    (rest : Reads .kanji false r t n s) : Reads .kanji switched (a :: b :: r) (c :: t) n s

theorem decodeIn_switch {m m' : Mode} {a b : UInt8} (h : mode? a b = some m') (r : Bytes) :
    decodeIn m false (0x1B :: a :: b :: r) = decodeIn m' true r := by
  rw [decodeIn, h]
  rfl

theorem decodeIn_single {m : Mode} {b : UInt8} {c : Char} (hb : b ≠ 0x1B) (hm : m ≠ .kanji)
    (h : single? m b = some c) (switched : Bool) (r : Bytes) :
    decodeIn m switched (b :: r) = (decodeIn m false r).map (c :: ·) := by
  cases r with
  | nil => simp [decodeIn, hb, hm, h]
  | cons c r => cases r <;> simp [decodeIn, hb, hm, h]

theorem decodeIn_pair {a b : UInt8} {c : Char} (ha : a ≠ 0x1B)
    (hrange : (inRange a && inRange b) = true)
    (h : Index.jis0208.char? ((a.toNat - 0x21) * 94 + (b.toNat - 0x21)) = some c) (switched : Bool)
    (r : Bytes) :
    decodeIn .kanji switched (a :: b :: r) = (decodeIn .kanji false r).map (c :: ·) := by
  cases r <;> simp [decodeIn, ha, hrange, h]

theorem reads_of_decodeIn {m : Mode} {switched : Bool} {bs : Bytes} {t : Text}
    (h : decodeIn m switched bs = some t) : ∃ n s, Reads m switched bs t n s := by
  fun_induction decodeIn m switched bs generalizing t with
  | case1 m switched =>
    cases h
    exact ⟨m, switched, .done⟩
  | case2 | case4 | case5 | case6 | case8 | case9 | case11 => cases h
  | case3 m switched a b r m' hset hswitched ih =>
    obtain ⟨n, s, hreads⟩ := ih h
    rw [Bool.not_eq_true] at hswitched
    exact ⟨n, s, hswitched ▸ .switch hset hreads⟩
  | case7 switched b hb c r hrange d hd _ ih =>
    obtain ⟨u, hu, rfl⟩ := Option.map_eq_some_iff.1 h
    obtain ⟨n, s, hreads⟩ := ih hu
    exact ⟨n, s, .pair hb hrange hd hreads⟩
  | case10 m switched b r _ hb hm d hd ih =>
    obtain ⟨u, hu, rfl⟩ := Option.map_eq_some_iff.1 h
    obtain ⟨n, s, hreads⟩ := ih hu
    exact ⟨n, s, .single hb hm hd hreads⟩

/-- The set that is current after bytes. -/
def modeAfter (m : Mode) : Bytes → Mode
  | 0x1B :: a :: b :: r => modeAfter ((mode? a b).getD m) r
  | _ :: r => modeAfter m r
  | [] => m

theorem modeAfter_cons {b : UInt8} (hb : b ≠ 0x1B) (m : Mode) (r : Bytes) :
    modeAfter m (b :: r) = modeAfter m r := by
  rw [modeAfter]
  rintro a c s rfl
  exact absurd rfl hb

theorem plain_of_inRange {b : UInt8} (h : inRange b = true) : b ≠ 0x1B ∧ b ≠ 10 := by
  constructor <;> rintro rfl <;> cases h

/-- A line feed belongs to ASCII and to the roman set. -/
theorem single?_feed {m : Mode} {b : UInt8} {c : Char} (h : single? m b = some c) :
    (b = 10 ↔ c = '\n') ∧ (b = 10 → m = .ascii ∨ m = .roman) := by
  cases m with
  | ascii =>
    simp only [single?] at h
    split at h
    · rw [← Option.some.inj h]
      exact ⟨ofNat_eq_feed b, fun _ => .inl rfl⟩
    · cases h
  | roman =>
    refine ⟨?_, fun _ => .inr rfl⟩
    simp only [single?] at h
    split at h
    · rename_i hb
      rw [← Option.some.inj h, hb]
      decide
    · split at h
      · rename_i hb
        rw [← Option.some.inj h, hb]
        decide
      · split at h
        · rw [← Option.some.inj h]
          exact ofNat_eq_feed b
        · cases h
  | katakana =>
    simp only [single?] at h
    split at h
    · rename_i hrange
      rw [← Option.some.inj h]
      have hb : b ≠ 10 := by
        rintro rfl
        exact absurd hrange (by decide)
      simp [hb, katakana_not_feed hrange.2 0x21 rfl]
    · cases h
  | kanji => cases h

namespace Reads

variable {m n : Mode} {switched s : Bool} {bs : Bytes} {t : Text}

theorem decodeIn_append (h : Reads m switched bs t n s) (more : Bytes) :
    decodeIn m switched (bs ++ more) = (decodeIn n s more).map (t ++ ·) := by
  induction h with
  | done => simp
  | switch set _ ih => exact (decodeIn_switch set _).trans ih
  | single plain set char _ ih =>
    rw [List.cons_append, decodeIn_single plain set char, ih, Option.map_map]
    rfl
  | pair plain range char _ ih =>
    rw [List.cons_append, List.cons_append, decodeIn_pair plain range char, ih, Option.map_map]
    rfl

theorem modeAfter_eq (h : Reads m switched bs t n s) : n = modeAfter m bs := by
  induction h with
  | done => rfl
  | switch set _ ih => rw [modeAfter, set, Option.getD_some, ih]
  | single plain _ _ _ ih => rw [modeAfter_cons plain, ih]
  | pair plain range _ _ ih =>
    rw [modeAfter_cons plain,
      modeAfter_cons (plain_of_inRange (Bool.and_eq_true_iff.1 range).2).1, ih]

/-- Bytes that end in a line feed are in a set that has one, and it was read. -/
theorem ends_feed (h : Reads m switched bs t n s) (hlast : bs.getLast? = some 10) :
    s = false ∧ t.getLast? = some '\n' ∧ (n = .ascii ∨ n = .roman) := by
  induction h with
  | done => cases hlast
  | @switch m m' n s a b r t set rest ih =>
    cases r with
    | nil =>
      obtain rfl : b = 10 := Option.some.inj hlast
      simp [mode?] at set
    | cons b' r => exact ih (by simpa using hlast)
  | @single m n switched s b r c t plain set char rest ih =>
    cases r with
    | nil =>
      obtain rfl : b = 10 := Option.some.inj hlast
      obtain ⟨hfeed, hmode⟩ := single?_feed char
      cases rest
      rw [hfeed.1 rfl]
      exact ⟨rfl, rfl, hmode rfl⟩
    | cons b' r =>
      obtain ⟨hs, ht, hn⟩ := ih (by simpa using hlast)
      exact ⟨hs, by rw [List.getLast?_cons, ht]; rfl, hn⟩
  | @pair n switched s a b r c t plain range char rest ih =>
    cases r with
    | nil =>
      obtain rfl : b = 10 := Option.some.inj hlast
      exact absurd rfl (plain_of_inRange (Bool.and_eq_true_iff.1 range).2).2
    | cons b' r =>
      obtain ⟨hs, ht, hn⟩ := ih (by simpa using hlast)
      exact ⟨hs, by rw [List.getLast?_cons, ht]; rfl, hn⟩

end Reads

/-- A line feed is read only in a set that has one. -/
theorem decodeIn_feed (m : Mode) (switched : Bool) (r : Bytes) :
    decodeIn m switched (10 :: r) =
      if m = .ascii ∨ m = .roman then (decodeIn m false r).map ('\n' :: ·) else none := by
  cases m with
  | ascii => exact decodeIn_single (by decide) (by decide) rfl switched r
  | roman => exact decodeIn_single (by decide) (by decide) rfl switched r
  | katakana => rcases r with _ | ⟨c, _ | ⟨d, r⟩⟩ <;> rfl
  | kanji => rcases r with _ | ⟨c, _ | ⟨d, r⟩⟩ <;> rfl

/-! ## What is written -/

/-- The character that is read where `c` was written, for readers who are in ASCII. -/
def rereadAs (c : Char) : Char :=
  widened (if isKatakana c then (wideKatakana[c.toNat - 0xFF61]?).getD c else c)

def isAscii (c : Char) : Bool := c.toNat < 0x80

/-- The character that is read where `c` of ASCII was written, for readers who are in the roman set. -/
def romanAs (c : Char) : Char := if c = '\\' then yen else if c = '~' then overline else c

theorem rereadAs_of_not_katakana {c : Char} (hnarrow : isKatakana c = false)
    (hminus : c.toNat ≠ 0x2212) : rereadAs c = c := by
  rw [rereadAs, hnarrow, if_neg Bool.false_ne_true, widened_of_ne hminus]

theorem not_katakana {c : Char} (h : c.toNat < 0xFF61) : isKatakana c = false := by
  simp [isKatakana]
  omega

theorem rereadAs_of_isAscii {c : Char} (h : isAscii c = true) : rereadAs c = c := by
  simp only [isAscii, decide_eq_true_eq] at h
  exact rereadAs_of_not_katakana (not_katakana (by omega)) (by omega)

set_option maxRecDepth 2000 in
theorem wideKatakana_wide : wideKatakana.length = 63 ∧
    ∀ c ∈ wideKatakana, isKatakana (widened c) = false := by
  obtain ⟨t, ht, hlength, hwide⟩ : ∃ t, wideKatakana = t ∧ t.length = 63 ∧
      (t.all fun c => !isKatakana (widened c)) = true :=
    ⟨_, Index.characters rfl, by decide +kernel⟩
  rw [ht]
  exact ⟨hlength, by simpa using hwide⟩

/-- Only the narrow katakana and the minus sign are read as other characters. -/
theorem rereadAs_eq_iff {c : Char} : rereadAs c = c ↔ isKatakana c = false ∧ c.toNat ≠ 0x2212 := by
  refine ⟨fun h => ?_, fun h => rereadAs_of_not_katakana h.1 h.2⟩
  cases hnarrow : isKatakana c with
  | true =>
    have hrange := isKatakana_iff.1 hnarrow
    have hwide : c.toNat - 0xFF61 < wideKatakana.length := by
      rw [wideKatakana_wide.1]
      omega
    rw [rereadAs, if_pos hnarrow, List.getElem?_eq_getElem hwide, Option.getD_some] at h
    have hother := wideKatakana_wide.2 _ (List.getElem_mem hwide)
    rw [h, hnarrow] at hother
    cases hother
  | false =>
    refine ⟨rfl, fun hminus => ?_⟩
    rw [rereadAs, hnarrow, if_neg Bool.false_ne_true, widened, if_pos hminus] at h
    rw [← h] at hminus
    exact absurd hminus (by decide)

theorem romanAs_eq_iff {c : Char} : romanAs c = c ↔ c ≠ '\\' ∧ c ≠ '~' := by
  unfold romanAs
  split
  · rename_i h
    subst h
    decide
  · split
    · rename_i h
      subst h
      decide
    · rename_i hbackslash htilde
      simp [hbackslash, htilde]

/-- The byte of a character of ASCII, in ASCII and in the roman set. -/
theorem single?_of_isAscii {c : Char} (hascii : c.toNat < 0x80)
    (hplain : ¬(c.toNat = 0x0E ∨ c.toNat = 0x0F ∨ c.toNat = 0x1B)) :
    c.toNat.toUInt8 ≠ 0x1B ∧ single? .ascii c.toNat.toUInt8 = some c ∧
      single? .roman c.toNat.toUInt8 = some (romanAs c) := by
  obtain ⟨hlow, hback⟩ := low_byte hascii
  have hiff (b : UInt8) : c.toNat.toUInt8 = b ↔ c.toNat = b.toNat := by
    rw [← UInt8.toNat_inj, Utf8.toNat_toUInt8 (by omega)]
  have hchar (d : Char) : c = d ↔ c.toNat = d.toNat := Char.toNat_inj.symm
  have hread : c.toNat.toUInt8 < 0x80 ∧ c.toNat.toUInt8 ≠ 0x0E ∧ c.toNat.toUInt8 ≠ 0x0F := by
    rw [Ne, Ne, hiff, hiff]
    exact ⟨hlow, mt .inl hplain, mt (.inr ∘ .inl) hplain⟩
  refine ⟨mt (.inr ∘ .inr ∘ (hiff _).1) hplain, ?_, ?_⟩
  · simp only [single?, if_pos hread, Charset.ascii, hback]
  · have hsplit : (some (romanAs c) : Option Char) =
        if c = '\\' then some yen else if c = '~' then some overline else some c := by
      rw [romanAs, apply_ite some, apply_ite some]
    simp only [hsplit, single?, hiff, hchar, if_pos hread, Charset.ascii, hback]
    rfl

/-- What a character is written as: a byte of ASCII, the yen sign and the overline in the roman set, or
    two bytes for its place in JIS X 0208. -/
theorem write_cases {m m' : Mode} {c : Char} {bs : Bytes} (h : write m c = some (m', bs)) :
    (isAscii c = true ∧ (m' = .ascii ∨ m = .roman ∧ m' = .roman ∧ romanAs c = c) ∧
      ∃ b : UInt8, bs = [b] ∧ b ≠ 0x1B ∧ single? .ascii b = some c ∧
        single? .roman b = some (romanAs c)) ∨
    (isAscii c = false ∧ m' = .roman ∧ ∃ b : UInt8, bs = [b] ∧ b ≠ 0x1B ∧
      single? .roman b = some (rereadAs c)) ∨
    (isAscii c = false ∧ m' = .kanji ∧ ∃ p < 8836, Index.jis0208.char? p = some (rereadAs c) ∧
      bs = [(p / 94 + 0x21).toUInt8, (p % 94 + 0x21).toUInt8]) := by
  unfold write at h
  dsimp only at h
  split at h
  · cases h
  · rename_i hplain
    split at h
    · rename_i hascii
      have hbyte := single?_of_isAscii hascii hplain
      refine .inl ⟨by simpa [isAscii] using hascii, ?_⟩
      split at h
      · rename_i hroman
        cases h
        refine ⟨.inr ⟨hroman.1, rfl, ?_⟩, _, rfl, hbyte⟩
        rw [romanAs, if_neg, if_neg] <;> rintro rfl <;> simp at hroman
      · cases h
        exact ⟨.inl rfl, _, rfl, hbyte⟩
    · rename_i hascii
      refine .inr ?_
      have hwide : isAscii c = false := by simpa [isAscii] using hascii
      split at h
      · rename_i b hb
        cases h
        refine .inl ⟨hwide, rfl, b, rfl, ?_⟩
        unfold sharedByte? at hb
        rw [if_neg hascii] at hb
        split at hb
        · rename_i hyen
          rw [← Option.some.inj hb, hyen]
          decide
        · split at hb
          · rename_i hoverline
            rw [← Option.some.inj hb, hoverline]
            decide
          · cases hb
      · obtain ⟨p, hp, hpair⟩ := Option.map_eq_some_iff.1 h
        cases hpair
        obtain ⟨hbound, hchar⟩ := char?_of_jisPlace? hp
        exact .inr ⟨hwide, rfl, p, hbound, hchar, rfl⟩

/-- The bytes of a character lead back to it in the set in which it is written. -/
theorem decodeIn_write {m m' : Mode} {c : Char} {bs : Bytes} (h : write m c = some (m', bs))
    (switched : Bool) (rest : Bytes) :
    decodeIn m' switched (bs ++ rest) = (decodeIn m' false rest).map (rereadAs c :: ·) := by
  rcases write_cases h with ⟨hascii, hmode, b, rfl, hb, hread, hroman⟩ | ⟨-, rfl, b, rfl, hb, hread⟩ |
    ⟨-, rfl, p, hp, hread, rfl⟩
  · rw [rereadAs_of_isAscii hascii]
    rcases hmode with rfl | ⟨-, rfl, hsame⟩
    · exact decodeIn_single hb (by decide) hread switched rest
    · exact decodeIn_single hb (by decide) (hsame ▸ hroman) switched rest
  · exact decodeIn_single hb (by decide) hread switched rest
  · obtain ⟨hbytes, hplace⟩ := place_bytes 0x21 0x7E rfl hp rfl rfl
    have hrange : (inRange (p / 94 + 0x21).toUInt8 && inRange (p % 94 + 0x21).toUInt8) = true := by
      simpa [inRange] using hbytes
    exact decodeIn_pair (plain_of_inRange (Bool.and_eq_true_iff.1 hrange).1).1 hrange
      (hplace.symm ▸ hread) switched rest

theorem decodeIn_switchTo (m m' : Mode) (r : Bytes) :
    decodeIn m false (switchTo m' ++ r) = decodeIn m' true r := by
  cases m' <;> exact decodeIn_switch (by decide) r

theorem encodeFrom_cons {m : Mode} {c : Char} {t : Text} {bs : Bytes}
    (h : encodeFrom m (c :: t) = some bs) :
    ∃ m' used rest, write m c = some (m', used) ∧ encodeFrom m' t = some rest ∧
      bs = (if m' = m then [] else switchTo m') ++ (used ++ rest) := by
  rw [encodeFrom] at h
  split at h
  · cases h
  · rename_i m' used hwrite
    obtain ⟨rest, hrest, rfl⟩ := Option.map_eq_some_iff.1 h
    exact ⟨m', used, rest, hwrite, hrest, List.append_assoc ..⟩

/-- What was written in a set is read in it. -/
theorem decodeIn_encodeFrom {m : Mode} {t : Text} {bs : Bytes} (h : encodeFrom m t = some bs) :
    decodeIn m false bs = some (t.map rereadAs) := by
  induction t generalizing m bs with
  | nil =>
    rw [encodeFrom] at h
    rw [← Option.some.inj h]
    cases m <;> rfl
  | cons c t ih =>
    obtain ⟨m', used, rest, hwrite, hrest, rfl⟩ := encodeFrom_cons h
    have hread (switched : Bool) :
        decodeIn m' switched (used ++ rest) = some (rereadAs c :: t.map rereadAs) := by
      rw [decodeIn_write hwrite, ih hrest]
      rfl
    split
    · rename_i hsame
      exact hsame ▸ hread false
    · exact (decodeIn_switchTo m m' _).trans (hread true)

/-- What is read in a set where a text was written in ASCII. In the roman set it is read otherwise up to
    the first character that is not in ASCII, for which the text switches. -/
def readIn (m : Mode) (t : Text) : Text :=
  if m = .roman then (t.takeWhile isAscii).map romanAs ++ (t.dropWhile isAscii).map rereadAs
  else t.map rereadAs

theorem decodeIn_roman {t : Text} {bs : Bytes} (h : encode t = some bs) :
    decodeIn .roman false bs = some (readIn .roman t) := by
  rw [readIn, if_pos rfl]
  unfold encode at h
  induction t generalizing bs with
  | nil =>
    rw [← Option.some.inj h]
    rfl
  | cons c t ih =>
    obtain ⟨m', used, rest, hwrite, hrest, rfl⟩ := encodeFrom_cons h
    have hswitched (hwide : isAscii c = false) (hm : m' ≠ .ascii) :
        decodeIn .roman false ((if m' = .ascii then [] else switchTo m') ++ (used ++ rest)) =
          some (((c :: t).takeWhile isAscii).map romanAs ++
            ((c :: t).dropWhile isAscii).map rereadAs) := by
      rw [if_neg hm, decodeIn_switchTo, decodeIn_write hwrite, decodeIn_encodeFrom hrest,
        List.takeWhile_cons_of_neg (by simp [hwide]), List.dropWhile_cons_of_neg (by simp [hwide])]
      rfl
    rcases write_cases hwrite with ⟨hascii, hmode, b, rfl, hb, -, hroman⟩ | ⟨hwide, rfl, -⟩ |
      ⟨hwide, rfl, -⟩
    · obtain rfl : m' = .ascii := by simpa using hmode
      rw [if_pos rfl, List.nil_append, List.singleton_append, decodeIn_single hb (by decide) hroman,
        ih hrest, List.takeWhile_cons_of_pos hascii, List.dropWhile_cons_of_pos hascii]
      rfl
    · exact hswitched hwide (by decide)
    · exact hswitched hwide (by decide)

theorem decodeIn_encode {m : Mode} (hm : m = .ascii ∨ m = .roman) {t : Text} {bs : Bytes}
    (h : encode t = some bs) : decodeIn m false bs = some (readIn m t) := by
  rcases hm with rfl | rfl
  · exact decodeIn_encodeFrom h
  · exact decodeIn_roman h

theorem readIn_feed (m : Mode) (t : Text) : readIn m (t ++ ['\n']) = readIn m t ++ ['\n'] := by
  have hfeed : rereadAs '\n' = '\n' := rereadAs_of_isAscii rfl
  unfold readIn
  split
  · induction t with
    | nil => rfl
    | cons c t ih =>
      rw [List.cons_append]
      by_cases hascii : isAscii c = true
      · rw [List.takeWhile_cons_of_pos hascii, List.dropWhile_cons_of_pos hascii,
          List.takeWhile_cons_of_pos hascii, List.dropWhile_cons_of_pos hascii, List.map_cons,
          List.cons_append, ih]
        rfl
      · rw [List.takeWhile_cons_of_neg hascii, List.dropWhile_cons_of_neg hascii,
          List.takeWhile_cons_of_neg hascii, List.dropWhile_cons_of_neg hascii]
        simp [hfeed]
  · simp [hfeed]

theorem readIn_eq_iff {m : Mode} {t : Text} : readIn m t = t ↔
    (∀ c ∈ t, rereadAs c = c) ∧ (m = .roman → ∀ c ∈ t.takeWhile isAscii, romanAs c = c) := by
  unfold readIn
  split
  · rename_i hroman
    have hparts : t.takeWhile isAscii ++ t.dropWhile isAscii = t := List.takeWhile_append_dropWhile
    have hascii : ∀ c ∈ t.takeWhile isAscii, rereadAs c = c := fun c hc =>
      rereadAs_of_isAscii (List.all_eq_true.1 List.all_takeWhile c hc)
    constructor
    · intro h
      obtain ⟨hfront, hback⟩ := List.append_inj (h.trans hparts.symm) (List.length_map _)
      refine ⟨fun c hc => ?_, fun _ => map_eq_self_iff.1 hfront⟩
      rw [← hparts, List.mem_append] at hc
      exact hc.elim (hascii c) (map_eq_self_iff.1 hback c)
    · rintro ⟨hall, hfront⟩
      have hback : ∀ c ∈ t.dropWhile isAscii, rereadAs c = c := fun c hc =>
        hall c (hparts ▸ List.mem_append_right _ hc)
      rw [map_eq_self_iff.2 (hfront hroman), map_eq_self_iff.2 hback, hparts]
  · rename_i hroman
    rw [map_eq_self_iff]
    exact ⟨fun h => ⟨h, fun hm => absurd hm hroman⟩, And.left⟩

/-! ## Adding a line -/

/-- What is behind bytes that have a text. -/
theorem decode_append {bs : Bytes} {t : Text} (h : decode bs = some t) : ∃ s,
    (∀ more, decode (bs ++ more) = (decodeIn (modeAfter .ascii bs) s more).map (t ++ ·)) ∧
      (bs = [] → s = false ∧ t = []) ∧
      (bs.getLast? = some 10 → s = false ∧ t.getLast? = some '\n' ∧
        (modeAfter .ascii bs = .ascii ∨ modeAfter .ascii bs = .roman)) := by
  obtain ⟨n, s, hreads⟩ := reads_of_decodeIn h
  obtain rfl := hreads.modeAfter_eq
  refine ⟨s, hreads.decodeIn_append, ?_, hreads.ends_feed⟩
  rintro rfl
  cases hreads
  exact ⟨rfl, rfl⟩

/-- A line can be added to bytes with their text: there are none, or they end in a line feed, or both
    the text and the bytes have yet to be finished and the set that is current has a line feed. -/
def TakesLine (bs : Bytes) (t : Text) : Prop :=
  bs = [] ∨ bs.getLast? = some 10 ∨
    ((modeAfter .ascii bs = .ascii ∨ modeAfter .ascii bs = .roman) ∧ t ≠ [] ∧ t.getLast? ≠ some '\n')

end Recipients.Charset.Iso2022Jp
