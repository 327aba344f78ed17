import Recipients.Proofs.Domain.Ascii

/-
  What is assumed of conversions of domains where a statement holds for more than the library's own,
  and conversions that know one domain only (`knowing`), of which all of it holds.
-/

namespace Recipients.Domain.Converter

/-- The ASCII form of an ASCII domain differs from it in case only. -/
def KeepsAscii (c : Converter) : Prop :=
  ∀ d a, Text.isAscii d = true → c.toAscii d = some a → Text.alike a d = true

/-- The readable form of an ASCII domain without an at sign has none either. -/
def AddsNoAt (c : Converter) : Prop :=
  ∀ d r, Text.isAscii d = true → '@' ∉ d → c.toReadable d = some r → '@' ∉ r

/-- A readable form has no other readable form. -/
def KeepsReadable (c : Converter) : Prop :=
  ∀ d r r', c.toReadable d = some r → c.toReadable r = some r' → r' = r

/-- Conversions that know one domain in its two forms, and leave the others as they are. -/
def knowing (wire readable : Text) : Converter where
  toAscii d := if d = readable then some wire else if d.isAscii then some d else none
  toReadable d := if d.alike wire then some readable else some d

variable {wire readable : Text}

theorem knowing_givesAscii (hwire : wire.isAscii = true) : (knowing wire readable).GivesAscii := by
  intro d a ha
  unfold knowing at ha
  dsimp only at ha
  split at ha
  · rwa [← Option.some.inj ha]
  · split at ha
    · rename_i hd
      rwa [← Option.some.inj ha]
    · cases ha

theorem knowing_keepsAscii (wire : Text) (hreadable : readable.isAscii = false) :
    (knowing wire readable).KeepsAscii := by
  intro d a hd ha
  unfold knowing at ha
  dsimp only at ha
  split at ha
  · rename_i hsame
    rw [hsame, hreadable] at hd
    cases hd
  · obtain rfl := Option.some.inj ha
    exact Text.alike_refl d

theorem knowing_addsNoAt (wire : Text) (hreadable : '@' ∉ readable) :
    (knowing wire readable).AddsNoAt := by
  intro d r _ hd hr
  unfold knowing at hr
  dsimp only at hr
  split at hr <;> obtain rfl := Option.some.inj hr
  · exact hreadable
  · exact hd

theorem knowing_keepsReadable (h : readable.alike wire = false) :
    (knowing wire readable).KeepsReadable := by
  intro d r r' hr hr'
  unfold knowing at hr hr'
  dsimp only at hr hr'
  split at hr <;> obtain rfl := Option.some.inj hr
  · rw [h] at hr'
    exact (Option.some.inj hr').symm
  · rename_i hd
    rw [if_neg hd] at hr'
    exact (Option.some.inj hr').symm

end Recipients.Domain.Converter
