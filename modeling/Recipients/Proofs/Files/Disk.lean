import Recipients.Files.Disk

/-
  What was added to a file is found there after what the file held before (`read_extend`). The file
  may be new, but the directories on the way to it were there.
-/

namespace Recipients
namespace Disk

variable {d : Disk} {names : List Text}

/-! ## Directories -/

theorem isDirectory_put {n : List Text} (h : d.isDirectory n = true) (names : List Text)
    (bs : Bytes) : (d.put names bs).isDirectory n = true := by
  unfold isDirectory at h ⊢
  rw [Bool.or_eq_true, List.any_eq_true] at h ⊢
  refine h.imp_right ?_
  rintro ⟨f, hf, hprefix⟩
  by_cases hsame : f.1 = names
  · exact ⟨(names, bs), List.mem_cons_self, hsame ▸ hprefix⟩
  · exact ⟨f, List.mem_cons_of_mem _ (List.mem_filter.2 ⟨hf, by simpa using hsame⟩), hprefix⟩

/-- A file is not a directory on the way to itself. -/
theorem not_isDirectory_put (h : d.isDirectory names = false) (bs : Bytes) :
    (d.put names bs).isDirectory names = false := by
  rw [Bool.eq_false_iff] at h ⊢
  intro hput
  refine h ?_
  unfold isDirectory at hput ⊢
  rw [Bool.or_eq_true, List.any_eq_true] at hput ⊢
  refine hput.imp_right ?_
  rintro ⟨f, hf, hprefix⟩
  rcases List.mem_cons.1 hf with rfl | hf
  · simp at hprefix
  · exact ⟨f, (List.mem_filter.1 hf).1, hprefix⟩

/-! ## Files -/

/-- A path that leads to a file, or to the place for one, leads to it once it has been put there. -/
theorem follow_put {base rest : List Text} {place : Place} (hfollow : d.follow base rest = .ok place)
    (hplace : place = .missing names ∨ ∃ bs, place = .file names bs) (new : Bytes) :
    (d.put names new).follow base rest = .ok (.file names new) := by
  induction rest generalizing base with
  | nil =>
    cases hfollow
    rcases hplace with h | ⟨_, h⟩ <;> cases h
  | cons name rest ih =>
    unfold follow at hfollow ⊢
    split at hfollow
    · rename_i hname
      rw [if_pos hname]
      exact ih hfollow
    · rename_i hname
      rw [if_neg hname]
      split at hfollow
      · rename_i hup
        rw [if_pos hup]
        exact ih hfollow
      · rename_i hup
        rw [if_neg hup]
        split at hfollow
        · rename_i hdir
          rw [if_pos (isDirectory_put hdir names new)]
          exact ih hfollow
        · rename_i hdir
          have hlast : names = base ++ [name] ∧ rest = [] := by
            split at hfollow
            · cases hfollow
              rcases hplace with h | ⟨_, h⟩ <;> cases h
              exact ⟨rfl, rfl⟩
            · cases hfollow
            · cases hfollow
              rcases hplace with h | ⟨_, h⟩ <;> cases h
              exact ⟨rfl, rfl⟩
            · cases hfollow
          obtain ⟨rfl, rfl⟩ := hlast
          rw [not_isDirectory_put (Bool.eq_false_iff.2 hdir), if_neg Bool.false_ne_true,
            contents?_put_self]

theorem read_put {path : Text} {place : Place} (hlocate : d.locate path = .ok place)
    (hplace : place = .missing names ∨ ∃ bs, place = .file names bs) (new : Bytes) :
    (d.put names new).read path = .ok new := by
  unfold locate at hlocate
  split at hlocate
  · cases hlocate
  · rename_i hpath
    unfold read locate
    rw [if_neg hpath, show (d.put names new).here = d.here from rfl, follow_put hlocate hplace new]

/-- What a file holds; one that is not there holds nothing. -/
def held (d : Disk) (path : Text) : Bytes :=
  match d.read path with
  | .ok bs => bs
  | .error _ => []

/-- What is added to a file goes after what the file held. -/
theorem read_extend {d' : Disk} {path : Text} {more : Bytes → Bytes}
    (h : d.extend path more = .ok d') :
    d'.read path = .ok (d.held path ++ more (d.held path)) := by
  unfold extend at h
  split at h
  · cases h
  · rename_i place hlocate
    split at h
    · rename_i hstem
      rw [hstem] at hlocate
      cases place with
      | file names bs =>
        cases h
        have hheld : d.held path = bs := by rw [held, read, hlocate]
        rw [hheld]
        exact read_put hlocate (.inr ⟨bs, rfl⟩) _
      | missing names =>
        cases h
        have hheld : d.held path = [] := by rw [held, read, hlocate]
        rw [hheld]
        exact read_put hlocate (.inl rfl) _
      | directory names => cases h
    · cases h

/-! ## Access -/

theorem access_extend (path : Text) (more : Bytes → Bytes) (d : Disk) :
    access.extend path more d = match d.extend path more with
      | .ok d' => (.ok (), d')
      | .error e => (.error e, d) := by
  show (match d.extend path more with
    | .ok d' => ((do set d'; return .ok ()) : StateM Disk (Except FileError Unit))
    | .error e => return .error e) d = _
  cases d.extend path more <;> rfl

end Disk
end Recipients
