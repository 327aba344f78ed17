import Recipients.Domain.Conversion
import Recipients.Proofs.Text

/-
  The ASCII form of a domain is ASCII (`standard_givesAscii`): an encoded label is its ASCII
  characters, a hyphen and digits, and the digits are letters and numerals.
-/

namespace Recipients.Domain

namespace Punycode

theorem digitChar_lt {d : Nat} (h : d < 36) : (digitChar d).toNat < 128 := by
  have hall : ∀ e < 36, (digitChar e).toNat < 128 := by decide
  exact hall d h

theorem isAscii_encodeNumber (bias k q : Nat) : (encodeNumber bias k q).isAscii = true := by
  fun_induction encodeNumber bias k q with
  | case1 k q t hq =>
    have := threshold_bounds bias k
    have hdigit : q < 36 := by omega
    simpa [Text.isAscii] using digitChar_lt hdigit
  | case2 k q t hq ih =>
    have hbounds : 1 ≤ t ∧ t ≤ 26 := threshold_bounds bias k
    have hmod : (q - t) % (36 - t) < 36 - t := Nat.mod_lt _ (by omega)
    have hdigit : t + (q - t) % (36 - t) < 36 := by omega
    exact Text.isAscii_append (s := [_]).2 ⟨by simpa [Text.isAscii] using digitChar_lt hdigit, ih⟩

namespace Writing

variable {w : Writing}

theorem isAscii_visit (h : w.out.isAscii = true) (basic code : Nat) (c : Char) :
    (w.visit basic code c).out.isAscii = true := by
  unfold visit
  split
  · exact h
  · split
    · exact Text.isAscii_append.2 ⟨h, isAscii_encodeNumber _ _ _⟩
    · exact h

theorem isAscii_place (h : w.out.isAscii = true) (label : Text) (basic next : Nat) (codes : List Nat) :
    (place label basic w next codes).out.isAscii = true := by
  induction codes generalizing w next with
  | nil => exact h
  | cons code codes ih =>
    refine ih ?_ _
    exact List.foldlRecOn (motive := fun v : Writing => v.out.isAscii = true) label _ h
      fun v hv c _ => isAscii_visit hv basic code c

end Writing

theorem isAscii_encode (label : Text) : (encode label).isAscii = true := by
  have hbasic : Text.isAscii (label.filter fun c => c.toNat < 128) = true :=
    Text.isAscii_iff.2 fun c hc => by simpa using (List.mem_filter.1 hc).2
  refine Text.isAscii_append.2 ⟨?_, Writing.isAscii_place Text.isAscii_nil _ _ _ _⟩
  split
  · exact Text.isAscii_nil
  · exact Text.isAscii_append.2 ⟨hbasic, by decide⟩

end Punycode

theorem isAscii_of_encodeLabel {label a : Text} (h : encodeLabel label = some a) :
    a.isAscii = true := by
  unfold encodeLabel at h
  split at h
  · rename_i hlabel
    rwa [← Option.some.inj h]
  · split at h
    · cases h
    · rw [← Option.some.inj h]
      exact Text.isAscii_append.2 ⟨by decide, Punycode.isAscii_encode label⟩

/-- Where all of a list can be converted, each result comes from one of the list. -/
theorem exists_of_mem_mapM {f : Text → Option Text} {ls rs : List Text} (h : ls.mapM f = some rs)
    {r : Text} (hr : r ∈ rs) : ∃ l ∈ ls, f l = some r := by
  induction ls generalizing rs with
  | nil =>
    cases h
    cases hr
  | cons l ls ih =>
    rw [List.mapM_cons] at h
    obtain ⟨first, hfirst, hmore⟩ := Option.bind_eq_some_iff.1 h
    obtain ⟨rest, hrest, hrs⟩ := Option.bind_eq_some_iff.1 hmore
    obtain rfl := Option.some.inj hrs
    rcases List.mem_cons.1 hr with rfl | hr
    · exact ⟨l, List.mem_cons_self, hfirst⟩
    · obtain ⟨k, hk, hf⟩ := ih hrest hr
      exact ⟨k, List.mem_cons_of_mem l hk, hf⟩

theorem isAscii_of_asciiForm {d a : Text} (h : asciiForm d = some a) : a.isAscii = true := by
  obtain ⟨ls, hls, rfl⟩ := Option.map_eq_some_iff.1 h
  obtain ⟨labels, -, hencode⟩ := Option.bind_eq_some_iff.1 hls
  refine Text.isAscii_join (by decide) fun w hw => ?_
  obtain ⟨label, -, hlabel⟩ := exists_of_mem_mapM hencode hw
  exact isAscii_of_encodeLabel hlabel

/-- What the converter gives for the wire is ASCII. -/
def Converter.GivesAscii (c : Converter) : Prop := ∀ d a, c.toAscii d = some a → a.isAscii = true

theorem Converter.standard_givesAscii : standard.GivesAscii := fun _ _ => isAscii_of_asciiForm

end Recipients.Domain
