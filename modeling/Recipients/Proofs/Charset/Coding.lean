import Recipients.Charset.Index
import Recipients.Proofs.Charset.Utf8

/-
  Charsets that are read from the front, a few bytes at a time. Their texts are put together as their
  bytes are, and a text ends with a line feed as its bytes do (`Joins`). Such a charset is given by what
  it reads at the front of bytes and by what it writes for one character (`IsCode`); what it has written
  is then read as one character after the other (`IsCode.joins`).
-/

namespace Recipients

theorem Utf8.decode_encode_append (t : Text) (bs : Bytes) :
    decode (encode t ++ bs) = (decode bs).map (t ++ ·) := by
  rw [decode, scan_encode, decode]
  generalize scan bs = cs
  induction t with
  | nil => simp
  | cons c t ih =>
    rw [List.map_cons, List.cons_append, mapM_id_cons, ih, Option.map_map]
    rfl

namespace Charset

theorem map_eq_self_iff {f : Char → Char} {t : Text} : t.map f = t ↔ ∀ c ∈ t, f c = c := by
  have hiff : t.map f = t.map id ↔ ∀ c ∈ t, f c = id c := List.map_inj_left
  rwa [List.map_id] at hiff

/-- A charset whose texts are put together as their bytes are. `readAs c` is what is read where `c` was
    written. -/
structure Joins (decode : Bytes → Option Text) (encode : Text → Option Bytes) (readAs : Char → Char) :
    Prop where
  /-- What follows does not change what was read. -/
  append {bs : Bytes} {t : Text} (h : decode bs = some t) (more : Bytes) :
    decode (bs ++ more) = (decode more).map (t ++ ·)
  /-- No bytes are no text, and no text but a line feed ends in the byte of a line feed. -/
  ends {bs : Bytes} {t : Text} (h : decode bs = some t) :
    (bs = [] ↔ t = []) ∧ (bs.getLast? = some 10 ↔ t.getLast? = some '\n')
  feed : decode [10] = some ['\n']
  written {t : Text} {bs : Bytes} (h : encode t = some bs) : decode bs = some (t.map readAs)

/-! ## Groups of bytes -/

section

variable {next : UInt8 → Bytes → Option (Text × Bytes)} {write : Char → Option Bytes}
  {readAs : Char → Char} {bs : Bytes} {t : Text}

/-- The bytes are read as one group, whatever follows them. -/
def IsGroup (next : UInt8 → Bytes → Option (Text × Bytes)) (bs : Bytes) (t : Text) : Prop :=
  ∃ b r, bs = b :: r ∧ ∀ more, next b (r ++ more) = some (t, more)

/-- A group ends in the byte of a line feed exactly if its text ends with a line feed. -/
def EndsAlike (bs : Bytes) (t : Text) : Prop :=
  t ≠ [] ∧ (bs.getLast? = some 10 ↔ t.getLast? = some '\n')

/-- What is read at the front of bytes, and what is written for a character. -/
structure IsCode (next : UInt8 → Bytes → Option (Text × Bytes)) (write : Char → Option Bytes)
    (readAs : Char → Char) : Prop where
  /-- What was read stood in front of what is left. -/
  front {b : UInt8} {r rest : Bytes} {t : Text} (h : next b r = some (t, rest)) :
    ∃ used, r = used ++ rest ∧ IsGroup next (b :: used) t ∧ EndsAlike (b :: used) t
  feed (r : Bytes) : next 10 r = some (['\n'], r)
  written {c : Char} {bs : Bytes} (h : write c = some bs) : IsGroup next bs [readAs c]

theorem decodeBy_cons {b : UInt8} {r rest : Bytes} (h : next b r = some (t, rest))
    (hrest : rest.length ≤ r.length) :
    decodeBy next (b :: r) = (decodeBy next rest).map (t ++ ·) := by
  rw [decodeBy, h]
  exact dif_pos hrest

theorem IsGroup.decodeBy_append (h : IsGroup next bs t) (more : Bytes) :
    decodeBy next (bs ++ more) = (decodeBy next more).map (t ++ ·) := by
  obtain ⟨b, r, rfl, hnext⟩ := h
  exact decodeBy_cons (hnext more) (by simp)

/-- Bytes that are groups, one after the other, with their text. -/
inductive Groups (next : UInt8 → Bytes → Option (Text × Bytes)) : Bytes → Text → Prop where
  | none : Groups next [] []
  | more {used rest : Bytes} {u v : Text} (group : IsGroup next used u) (ends : EndsAlike used u)
    (groups : Groups next rest v) : Groups next (used ++ rest) (u ++ v)

namespace Groups

theorem decodeBy_append (h : Groups next bs t) (more : Bytes) :
    decodeBy next (bs ++ more) = (decodeBy next more).map (t ++ ·) := by
  induction h with
  | none => simp
  | @more used rest u v group _ _ ih =>
    rw [List.append_assoc, group.decodeBy_append, ih, Option.map_map]
    exact congrArg (Option.map · _) (funext fun w => (List.append_assoc u v w).symm)

/-- What ends the bytes ends the last group. -/
theorem ends_alike (h : Groups next bs t) :
    (bs = [] ↔ t = []) ∧ (bs.getLast? = some 10 ↔ t.getLast? = some '\n') := by
  induction h with
  | none => simp
  | @more used rest u v group ends _ ih =>
    obtain ⟨b, r, rfl, -⟩ := group
    obtain ⟨hu, hlast⟩ := ends
    refine ⟨by simp [hu], ?_⟩
    rw [List.getLast?_append, List.getLast?_append]
    cases hb : rest.getLast? with
    | none =>
      rw [ih.1.1 (List.getLast?_eq_none_iff.1 hb)]
      exact hlast
    | some b' =>
      cases hc : v.getLast? with
      | none =>
        rw [ih.1.2 (List.getLast?_eq_none_iff.1 hc)] at hb
        cases hb
      | some c =>
        rw [hb, hc] at ih
        exact ih.2

end Groups

namespace IsCode

/-- Bytes that have a text are groups. -/
theorem groups (hcode : IsCode next write readAs) (h : decodeBy next bs = some t) :
    Groups next bs t := by
  induction hlength : bs.length using Nat.strongRecOn generalizing bs t with
  | ind n ih =>
    cases bs with
    | nil =>
      rw [decodeBy] at h
      rw [← Option.some.inj h]
      exact .none
    | cons b r =>
      rw [decodeBy] at h
      split at h
      · cases h
      · rename_i u rest hnext
        obtain ⟨used, rfl, group, ends⟩ := hcode.front hnext
        split at h
        · obtain ⟨v, hv, rfl⟩ := Option.map_eq_some_iff.1 h
          have hshorter : rest.length < n := by
            rw [← hlength, List.length_cons, List.length_append]
            omega
          exact .more group ends (ih _ hshorter hv rfl)
        · cases h

theorem written_text (hcode : IsCode next write readAs) (h : encodeBy write t = some bs) :
    decodeBy next bs = some (t.map readAs) := by
  unfold encodeBy at h
  obtain ⟨groups, hgroups, rfl⟩ := Option.map_eq_some_iff.1 h
  clear h
  induction t generalizing groups with
  | nil =>
    cases hgroups
    rw [List.reverse_nil, List.flatten_nil, decodeBy]
    rfl
  | cons c t ih =>
    rw [List.mapM_cons] at hgroups
    obtain ⟨group, hgroup, hgroups⟩ := Option.bind_eq_some_iff.1 hgroups
    obtain ⟨rest, hrest, hgroups⟩ := Option.bind_eq_some_iff.1 hgroups
    cases hgroups
    rw [List.flatten_cons, (hcode.written hgroup).decodeBy_append, ih _ hrest]
    rfl

theorem joins (hcode : IsCode next write readAs) :
    Joins (decodeBy next) (encodeBy write) readAs where
  append h := (hcode.groups h).decodeBy_append
  ends h := (hcode.groups h).ends_alike
  feed := by
    rw [decodeBy_cons (hcode.feed []) (Nat.le_refl _), decodeBy]
    rfl
  written := hcode.written_text

end IsCode

end

/-! ## Single bytes -/

section

variable (read : UInt8 → Option Char) (write : Char → Option UInt8)

theorem decodeBy_single (bs : Bytes) :
    decodeBy (fun b r => (read b).map fun c => ([c], r)) bs = bs.mapM read := by
  induction bs with
  | nil =>
    rw [decodeBy]
    rfl
  | cons b r ih =>
    rw [decodeBy, List.mapM_cons]
    cases read b with
    | none => rfl
    | some c =>
      simp only [Option.map_some, Nat.le_refl, dite_true, ih]
      cases r.mapM read <;> rfl

theorem encodeBy_single (t : Text) :
    encodeBy (fun c => (write c).map fun b => [b]) t = t.mapM write := by
  unfold encodeBy
  induction t with
  | nil => rfl
  | cons c t ih =>
    rw [List.mapM_cons, List.mapM_cons, ← ih]
    cases write c with
    | none => rfl
    | some b => cases t.mapM fun c => (write c).map fun b => [b] <;> rfl

/-- A charset in which each byte is a character. -/
theorem joins_single {read : UInt8 → Option Char} {write : Char → Option UInt8}
    (hfeed : ∀ b c, read b = some c → (b = 10 ↔ c = '\n')) (hten : read 10 = some '\n')
    (hwritten : ∀ c b, write c = some b → read b = some c) :
    Joins (List.mapM read) (List.mapM write) id := by
  have hcode : IsCode (fun b r => (read b).map fun c => ([c], r))
      (fun c => (write c).map fun b => [b]) id := by
    refine ⟨fun {b r rest t} h => ?_, fun r => by rw [hten]; rfl, fun {c bs} h => ?_⟩
    · obtain ⟨c, hc, hpair⟩ := Option.map_eq_some_iff.1 h
      cases hpair
      refine ⟨[], rfl, ⟨b, [], rfl, fun more => ?_⟩, List.cons_ne_nil _ _, ?_⟩
      · simp only [hc]
        rfl
      · simpa using hfeed b c hc
    · obtain ⟨b, hb, rfl⟩ := Option.map_eq_some_iff.1 h
      refine ⟨b, [], rfl, fun more => ?_⟩
      simp only [hwritten c b hb]
      rfl
  have hjoins := hcode.joins
  rwa [funext (decodeBy_single read), funext (encodeBy_single write)] at hjoins

end

/-! ## UTF-8 -/

/-- UTF-8 is read as it was written. -/
theorem joins_utf8 : Joins Utf8.decode (fun t => some (Utf8.encode t)) id where
  append := by
    intro bs t h more
    rw [Utf8.encode_of_decode h, Utf8.decode_encode_append]
  ends := by
    intro bs t h
    rw [Utf8.encode_of_decode h]
    rcases List.eq_nil_or_concat t with rfl | ⟨s, c, rfl⟩
    · simp [Utf8.encode]
    · obtain ⟨b, hb, hfeed⟩ := Utf8.encodeChar_getLast? c
      have hlast : (Utf8.encode (s ++ [c])).getLast? = some b := by
        rw [Utf8.encode_append, List.getLast?_append, Utf8.encode, List.flatMap_singleton, hb]
        rfl
      have hne : Utf8.encode (s ++ [c]) ≠ [] := fun h => by
        rw [h] at hlast
        cases hlast
      rw [List.concat_eq_append, hlast, List.getLast?_concat]
      simpa [hne] using hfeed
  feed := by decide +kernel
  written := by
    intro t bs h
    rw [← Option.some.inj h, Utf8.decode_encode, List.map_id]

end Charset
end Recipients
