import Recipients.Alias.File
import Recipients.Proofs.Charset.Utf8
import Recipients.Proofs.Files.Disk
import Recipients.Proofs.Text

/-
  The file of aliases in UTF-8. After an alias has been added, the file reads as the text that it
  held, finished, with the line of the alias after it (`read_append`).
-/

namespace Recipients
namespace AliasFile

open Text (finished)

/-! ## Bytes -/

theorem finish_eq (contents : Bytes) : finish contents =
    if contents = [] ∨ contents.getLast? = some lineFeed then [] else [lineFeed] := by
  unfold finish
  split
  · rename_i b hb
    have hne : contents ≠ [] := by
      rintro rfl
      cases hb
    simp [hne, hb]
  · rename_i hnone
    rw [if_pos (.inl (List.getLast?_eq_none_iff.1 hnone))]

/-- The bytes of a text are finished as the text is. -/
theorem encode_finished (t : Text) :
    Utf8.encode t ++ finish (Utf8.encode t) = Utf8.encode (finished t) := by
  have hlast (s : Text) (c : Char) : finish (Utf8.encode (s ++ [c])) =
      if c = '\n' then [] else [lineFeed] := by
    obtain ⟨b, hb, hfeed⟩ := Utf8.encodeChar_getLast? c
    have hend : (Utf8.encode (s ++ [c])).getLast? = some b := by
      rw [Utf8.encode_append, List.getLast?_append, Utf8.encode, List.flatMap_singleton, hb]
      rfl
    rw [finish, hend]
    by_cases hc : c = '\n'
    · rw [if_pos hc]
      exact if_pos (hfeed.2 hc)
    · rw [if_neg hc]
      exact if_neg fun h => hc (hfeed.1 h)
  rcases Text.finished_cases t with ⟨rfl, hf⟩ | ⟨s, rfl, hf⟩ | ⟨s, c, rfl, hc, hf⟩
  · rw [hf]
    rfl
  · rw [hf, hlast, if_pos rfl, List.append_nil]
  · rw [hf, hlast, if_neg hc, Utf8.encode_append (s ++ [c])]
    rfl

/-! ## Runs on a disk -/

theorem append_run (f : AliasFile) (a : Alias) (d : Disk) :
    append Disk.access f a d = match addition f.charset a with
      | .error e => (.error (.address (.charset e)), d)
      | .ok line =>
        match d.extend f.path fun contents => finish contents ++ line with
        | .ok d' => (.ok (), d')
        | .error e => (.error (.file e), d) := by
  cases hline : addition f.charset a with
  | error e =>
    rw [append, hline]
    rfl
  | ok line =>
    have hextend := Disk.access_extend f.path (fun contents => finish contents ++ line) d
    rw [append, hline]
    simp only [bind, StateT.bind, hextend]
    cases d.extend f.path (fun contents => finish contents ++ line) <;> rfl

theorem read_run (f : AliasFile) (d : Disk) :
    read Disk.access f d = match d.read f.path with
      | .error e => (.error (.file e), d)
      | .ok bs =>
        match f.charset.read bs with
        | .ok t => (.ok t, d)
        | .error e => (.error (.address (.charset e)), d) := by
  show (match d.read f.path with
    | .error e => (pure (.error (.file e)) : StateM Disk (Except Failure Text))
    | .ok bs =>
      match f.charset.read bs with
      | .ok t => pure (.ok t)
      | .error e => pure (.error (.address (.charset e)))) d = _
  cases d.read f.path with
  | error e => rfl
  | ok bs =>
    simp only
    cases f.charset.read bs <;> rfl

/-- An alias is added or the files stay as they are. -/
theorem append_cases (f : AliasFile) (a : Alias) (d : Disk) :
    (∃ e, append Disk.access f a d = (.error e, d)) ∨
      ∃ line d', f.charset.encode (a.line ++ ['\n']) = some line ∧
        d.extend f.path (fun contents => finish contents ++ line) = .ok d' ∧
        append Disk.access f a d = (.ok (), d') := by
  rw [append_run, addition, Charset.write]
  cases f.charset.encode (a.line ++ ['\n']) with
  | none => exact .inl ⟨_, rfl⟩
  | some line =>
    dsimp only
    cases hextend : d.extend f.path (fun contents => finish contents ++ line) with
    | error e => exact .inl ⟨_, rfl⟩
    | ok d' => exact .inr ⟨line, d', rfl, hextend, rfl⟩

/-- Only what has been added is new, and the line feed before it if the text was not finished. -/
theorem read_append {f : AliasFile} (hf : f.charset = .utf8) {d d' : Disk} {a : Alias} {t : Text}
    (ht : Utf8.decode (d.held f.path) = some t)
    (h : append Disk.access f a d = (.ok (), d')) :
    read Disk.access f d' = (.ok (finished t ++ (a.line ++ ['\n'])), d') := by
  have hline : addition f.charset a = .ok (Utf8.encode (a.line ++ ['\n'])) := by
    rw [hf]
    rfl
  have hextend : d.extend f.path
      (fun contents => finish contents ++ Utf8.encode (a.line ++ ['\n'])) = .ok d' := by
    rw [append_run, hline] at h
    simp only at h
    split at h
    · rename_i d'' hextend
      rw [hextend, (Prod.mk.inj h).2]
    · cases h
  have hbytes : d'.read f.path = .ok (Utf8.encode (finished t ++ (a.line ++ ['\n']))) := by
    rw [Disk.read_extend hextend, Utf8.decode_eq_some_iff.1 ht, ← List.append_assoc, encode_finished,
      Utf8.encode_append (finished t)]
  have htext : f.charset.read (Utf8.encode (finished t ++ (a.line ++ ['\n']))) =
      .ok (finished t ++ (a.line ++ ['\n'])) := by
    rw [hf, Charset.read, Charset.decode, Utf8.decode_encode]
  rw [read_run, hbytes]
  simp only [htext]

end AliasFile
end Recipients
