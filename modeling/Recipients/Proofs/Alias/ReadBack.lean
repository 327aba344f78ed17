import Recipients.Proofs.Alias.File
import Recipients.Proofs.Charset.Written

/-
  The file of aliases in any charset. After an alias has been added, the file reads as the text that it
  held, finished, with the line of the alias after it, exactly if the charset is one that is written, it
  keeps the characters of the line, and, in ISO-2022-JP, the bytes of the file end where a line can be
  added (`read_append_iff`).
-/

namespace Recipients
namespace AliasFile

open Text (finished)

/-! ## What is added -/

theorem finished_eq (t : Text) :
    finished t = if t = [] ∨ t.getLast? = some '\n' then t else t ++ ['\n'] := by
  rcases Text.finished_cases t with ⟨rfl, hf⟩ | ⟨s, rfl, hf⟩ | ⟨s, c, rfl, hc, hf⟩
  · rfl
  · simp [hf]
  · simp [hf, hc]

theorem line_head (a : Alias) : ∃ r, a.line = 'a' :: 'l' :: r := by
  have hword : "alias ".toList = ['a', 'l', 'i', 'a', 's', ' '] := rfl
  unfold Alias.line
  rw [hword]
  simp only [List.cons_append]
  exact ⟨_, rfl⟩

variable {f : AliasFile} {a : Alias} {d d' : Disk}

theorem read_of_append (h : append Disk.access f a d = (.ok (), d')) :
    ∃ line, f.charset.encode (a.line ++ ['\n']) = some line ∧
      d'.read f.path = .ok (d.held f.path ++ (finish (d.held f.path) ++ line)) := by
  rcases append_cases f a d with ⟨e, he⟩ | ⟨line, d'', hline, hextend, hok⟩
  · cases he.symm.trans h
  · obtain rfl := (Prod.mk.inj (hok.symm.trans h)).2
    exact ⟨line, hline, Disk.read_extend hextend⟩

theorem append_of_toOption (h : (append Disk.access f a d).1.toOption = some ()) :
    append Disk.access f a d = (.ok (), (append Disk.access f a d).2) := by
  rcases append_cases f a d with ⟨e, he⟩ | ⟨line, d', -, -, hok⟩
  · rw [he] at h
    cases h
  · rw [hok]

theorem read_eq_iff {bs : Bytes} (hbytes : d.read f.path = .ok bs) {t : Text} :
    read Disk.access f d = (.ok t, d) ↔ f.charset.decode bs = some t := by
  rw [read_run, hbytes]
  dsimp only
  rw [Charset.read]
  cases f.charset.decode bs with
  | none =>
    constructor
    · intro h
      cases (Prod.mk.inj h).1
    · intro h
      cases h
  | some u =>
    constructor
    · intro h
      rw [Except.ok.inj (Prod.mk.inj h).1]
    · intro h
      rw [Option.some.inj h]

/-! ## Charsets that put texts together as bytes -/

/-- The bytes are finished as the text is. -/
theorem decode_added {decode : Bytes → Option Text} {encode : Text → Option Bytes}
    {readAs : Char → Char} (hjoins : Charset.Joins decode encode readAs) {bs more : Bytes}
    {t added : Text} (ht : decode bs = some t) (hadded : encode added = some more) :
    decode (bs ++ (finish bs ++ more)) = some (finished t ++ added.map readAs) := by
  obtain ⟨hnone, hlast⟩ := hjoins.ends ht
  have hmore := hjoins.written hadded
  rw [hjoins.append ht, finish_eq, finished_eq]
  by_cases hend : bs = [] ∨ bs.getLast? = some lineFeed
  · rw [if_pos hend, if_pos (hend.imp hnone.1 hlast.1), List.nil_append, hmore]
    rfl
  · rw [if_neg hend, if_neg (mt (Or.imp hnone.2 hlast.2) hend)]
    show (decode ([10] ++ more)).map (t ++ ·) = _
    rw [hjoins.append hjoins.feed, hmore]
    simp

/-! ## ISO-2022-JP -/

section

open Charset.Iso2022Jp

/-- What is read of a line that is added. -/
theorem decode_added_switching {bs more : Bytes} {t added : Text}
    (ht : Charset.Iso2022Jp.decode bs = some t) (hadded : encode added = some more)
    (hhead : added.head? = some 'a') :
    Charset.Iso2022Jp.decode (bs ++ (finish bs ++ more)) = some (finished t ++ added) ↔
      TakesLine bs t ∧ readIn (modeAfter .ascii bs) added = added := by
  obtain ⟨s, happend, hnone, hlast⟩ := decode_append ht
  rw [finish_eq, finished_eq, happend]
  by_cases hend : bs = [] ∨ bs.getLast? = some lineFeed
  · have hs : s = false ∧ (t = [] ∨ t.getLast? = some '\n') ∧
        (modeAfter .ascii bs = .ascii ∨ modeAfter .ascii bs = .roman) := by
      rcases hend with rfl | hend
      · exact ⟨(hnone rfl).1, .inl (hnone rfl).2, .inl rfl⟩
      · exact ⟨(hlast hend).1, .inr (hlast hend).2.1, (hlast hend).2.2⟩
    have htakes : TakesLine bs t := hend.imp_right .inl
    rw [if_pos hend, if_pos hs.2.1, List.nil_append, hs.1, decodeIn_encode hs.2.2 hadded]
    simp [htakes]
  · have htakes : TakesLine bs t ↔
        (modeAfter .ascii bs = .ascii ∨ modeAfter .ascii bs = .roman) ∧
          ¬(t = [] ∨ t.getLast? = some '\n') := by
      rw [TakesLine, ← or_assoc, not_or]
      exact or_iff_right hend
    rw [if_neg hend, htakes]
    show (decodeIn _ s (10 :: more)).map (t ++ ·) = _ ↔ _
    rw [decodeIn_feed]
    by_cases hm : modeAfter .ascii bs = .ascii ∨ modeAfter .ascii bs = .roman
    · rw [if_pos hm, decodeIn_encode hm hadded]
      by_cases hfinished : t = [] ∨ t.getLast? = some '\n'
      · rw [if_pos hfinished]
        simp only [hfinished, not_true, and_false, false_and, iff_false]
        intro h
        have htext := List.append_cancel_left (Option.some.inj h)
        rw [← htext] at hhead
        cases hhead
      · rw [if_neg hfinished]
        simp [hm, hfinished]
    · rw [if_neg hm]
      simp [hm]

end

/-! ## Charsets that are only read -/

theorem finish_cases (bs : Bytes) : finish bs = [] ∨ finish bs = [10] := by
  rw [finish_eq]
  split
  · exact .inl rfl
  · exact .inr rfl

/-- Two bytes of the line, or the line feed in front of it and one, are read as a character that is not
    in ASCII. -/
theorem decode_added_utf16 {bigEndian : Bool} {bs rest : Bytes} {t r : Text}
    (ht : Charset.Utf16.decode bigEndian bs = some t) :
    Charset.Utf16.decode bigEndian (bs ++ (finish bs ++ 0x61 :: 0x6C :: rest)) ≠
      some (finished t ++ 'a' :: r) := by
  intro h
  rw [Charset.Utf16.decode_append ht] at h
  obtain ⟨u, hu, htext⟩ := Option.map_eq_some_iff.1 h
  obtain ⟨c, s, rfl, hwide⟩ : ∃ c s, u = c :: s ∧ 128 ≤ c.toNat := by
    rcases finish_cases bs with hfinish | hfinish <;> rw [hfinish] at hu
    · exact Charset.Utf16.decode_ascii (by decide) (by decide) hu
    · exact Charset.Utf16.decode_ascii (by decide) (by decide) hu
  have hascii : c = 'a' ∨ c = '\n' := by
    rw [finished_eq] at htext
    split at htext
    · exact .inl (List.cons.inj (List.append_cancel_left htext)).1
    · rw [List.append_assoc] at htext
      exact .inr (List.cons.inj (List.append_cancel_left htext)).1
  rcases hascii with rfl | rfl <;> exact absurd hwide (by decide)

/-- A line that is written in UTF-8 is not read by a charset that is only read. -/
theorem decode_added_only_read {cs : Charset} (hcs : cs.isOnlyRead = true) {bs more : Bytes}
    {t r : Text} (ht : cs.decode bs = some t) (hadded : cs.encode ('a' :: 'l' :: r) = some more) :
    cs.decode (bs ++ (finish bs ++ more)) ≠ some (finished t ++ 'a' :: 'l' :: r) := by
  obtain ⟨rest, rfl⟩ : ∃ rest, more = 0x61 :: 0x6C :: rest := by
    have hmore : some (Utf8.encode ('a' :: 'l' :: r)) = some more := by
      rw [← hadded]
      cases cs <;> first | rfl | cases hcs
    rw [← Option.some.inj hmore]
    exact ⟨_, rfl⟩
  cases cs with
  | utf16be => exact decode_added_utf16 ht
  | utf16le => exact decode_added_utf16 ht
  | replacement =>
    have hnone : Charset.decode .replacement (bs ++ (finish bs ++ 0x61 :: 0x6C :: rest)) = none := by
      refine if_neg ?_
      simp
    rw [hnone]
    exact nofun
  | _ => cases hcs

/-! ## All charsets -/

/-- What is read after an alias has been added. -/
theorem read_append_iff {t : Text} (ht : f.charset.decode (d.held f.path) = some t)
    (h : append Disk.access f a d = (.ok (), d')) :
    read Disk.access f d' = (.ok (finished t ++ (a.line ++ ['\n'])), d') ↔
      f.charset.isOnlyRead = false ∧ (∀ c ∈ a.line, f.charset.keeps c = true) ∧
      (f.charset = .iso2022Jp → Charset.Iso2022Jp.TakesLine (d.held f.path) t ∧
        (Charset.Iso2022Jp.modeAfter .ascii (d.held f.path) = .roman →
          ∀ c ∈ a.line.takeWhile Charset.Iso2022Jp.isAscii, c ≠ '\\' ∧ c ≠ '~')) := by
  obtain ⟨line, hline, hbytes⟩ := read_of_append h
  obtain ⟨r, hhead⟩ := line_head a
  rw [read_eq_iff hbytes]
  cases honly : f.charset.isOnlyRead with
  | true =>
    rw [hhead] at hline ⊢
    simp only [Bool.true_eq_false, false_and, iff_false]
    exact decode_added_only_read honly ht hline
  | false =>
    by_cases hswitch : f.charset = .iso2022Jp
    · rw [hswitch] at ht hline ⊢
      have hkeeps (c : Char) : Charset.keeps .iso2022Jp c = true ↔ Charset.Iso2022Jp.rereadAs c = c :=
        Charset.readAs_eq_iff.symm
      refine (decode_added_switching ht hline (by rw [hhead]; rfl)).trans ?_
      rw [Charset.Iso2022Jp.readIn_feed, List.append_left_inj, Charset.Iso2022Jp.readIn_eq_iff]
      simp only [hkeeps, Charset.Iso2022Jp.romanAs_eq_iff, true_and, forall_true_left]
      exact and_left_comm
    · have hjoins := Charset.joins honly hswitch
      have hread := decode_added hjoins ht hline
      rw [hread]
      simp [hswitch, Charset.map_eq_self_iff, Charset.readAs_eq_iff, Charset.keeps_feed]

/-- An ISO-2022-JP file that ends in the roman set, in a line that is not finished. -/
def romanDisk : Disk where
  files := [(["aliases".toList],
    Utf8.encode "alias w w@x.org # ".toList ++ [0x1B, 0x28, 0x4A, 0x5C])]

def plainAlias : Alias where
  name := "jm".toList
  addresses := [{ mailbox := some "jm@x.de".toList }]

theorem read_append_roman : ∃ (f : AliasFile) (d' : Disk),
    append Disk.access f plainAlias romanDisk = (.ok (), d') ∧
      read Disk.access f d' = (.ok (finished "alias w w@x.org # ¥".toList ++
        (plainAlias.line ++ ['\n'])), d') := by
  let f : AliasFile := { path := "aliases".toList, charset := .iso2022Jp }
  have ht : f.charset.decode (romanDisk.held f.path) = some "alias w w@x.org # ¥".toList := by
    decide +kernel
  have happend : append Disk.access f plainAlias romanDisk =
      (.ok (), (append Disk.access f plainAlias romanDisk).2) :=
    append_of_toOption (by decide +kernel)
  have hkeeps : plainAlias.line.all f.charset.keeps = true := by decide +kernel
  have hplain : (plainAlias.line.all fun c => c != '\\' && c != '~') = true := by decide +kernel
  refine ⟨f, _, happend, (read_append_iff ht happend).2 ⟨rfl, List.all_eq_true.1 hkeeps, fun _ =>
    ⟨?_, fun _ c hc => ?_⟩⟩⟩
  · exact .inr (.inr ⟨.inr (by decide +kernel), by decide +kernel, by decide +kernel⟩)
  · simpa using List.all_eq_true.1 hplain c (List.takeWhile_subset _ hc)

/-- A file in UTF-16 is written in UTF-8 and then read as other characters. -/
theorem read_append_utf16 :
    ¬ ∀ (f : AliasFile) (a : Alias) (d d' : Disk) (t : Text),
      f.charset.decode (d.held f.path) = some t → append Disk.access f a d = (.ok (), d') →
      read Disk.access f d' = (.ok (finished t ++ (a.line ++ ['\n'])), d') := by
  intro h
  let f : AliasFile := { path := "aliases".toList, charset := .utf16le }
  have hread := h f plainAlias {} (append Disk.access f plainAlias {}).2 [] (by decide +kernel)
    (append_of_toOption (by decide +kernel))
  have htext := congrArg (fun r => r.1.toOption) hread
  revert htext
  decide +kernel

end AliasFile
end Recipients
