/-
  Text is a list of characters. This module holds what the rest of the library asks of it:
  ASCII case, blank characters, cutting at separators, and lines.
  `lower_lower`: folding twice folds once, so `alike` is an equivalence.
-/

namespace Recipients

abbrev Text := List Char

/-- Named once for all texts: whether a text is in a list is decided by this instance everywhere. -/
instance : LawfulBEq Text := inferInstance

namespace Text

/-- ASCII capitals become small letters; every other character stays as it is. -/
def lower (t : Text) : Text := t.map Char.toLower

/-- Two texts are alike when they differ in ASCII case only. -/
def alike (s t : Text) : Bool := lower s == lower t

theorem alike_iff {s t : Text} : alike s t = true ↔ lower s = lower t := by simp [alike]

theorem alike_refl (t : Text) : alike t t = true := by simp [alike]

theorem alike_comm (s t : Text) : alike s t = alike t s := by
  simp [alike, Bool.beq_comm]

theorem alike_trans {s t u : Text} (h : alike s t = true) (h' : alike t u = true) :
    alike s u = true := by
  rw [alike_iff] at *
  exact h.trans h'

def isAscii (t : Text) : Bool := t.all fun c => c.toNat < 128

/-- The blank characters of Unicode (property White_Space). -/
def isBlank (c : Char) : Bool :=
  let n := c.toNat
  (9 ≤ n && n ≤ 13) || n == 0x20 || n == 0x85 || n == 0xA0 || n == 0x1680 ||
  (0x2000 ≤ n && n ≤ 0x200A) || n == 0x2028 || n == 0x2029 || n == 0x202F || n == 0x205F ||
  n == 0x3000

def trimStart (t : Text) : Text := t.dropWhile isBlank

def trimEnd : Text → Text
  | [] => []
  | c :: r => if isBlank c && (trimEnd r).isEmpty then [] else c :: trimEnd r

def trim (t : Text) : Text := trimEnd (trimStart t)

/-- The pieces between the separators; there is always one more piece than separators. -/
def splitWhen (sep : Char → Bool) : Text → List Text
  | [] => [[]]
  | c :: r =>
    if sep c then [] :: splitWhen sep r
    else match splitWhen sep r with
      | [] => [[c]]
      | p :: ps => (c :: p) :: ps

/-- The maximal non-empty stretches without a separator. -/
def stretches (sep : Char → Bool) (t : Text) : List Text :=
  (splitWhen sep t).filter fun p => !p.isEmpty

/-- The words of a text, which blanks of any kind keep apart. -/
def words (t : Text) : List Text := stretches isBlank t

/-- What stands before and after the first `sep`. -/
def cutFirst (sep : Char) : Text → Option (Text × Text)
  | [] => none
  | c :: r => if c = sep then some ([], r) else (cutFirst sep r).map fun p => (c :: p.1, p.2)

/-- What stands before and after the last `sep`. -/
def cutLast (sep : Char) : Text → Option (Text × Text)
  | [] => none
  | c :: r =>
    match cutLast sep r with
    | some p => some (c :: p.1, p.2)
    | none => if c = sep then some ([], r) else none

/-- What is left after `start`, where the text begins with it. -/
def afterPrefix? : (start : Text) → Text → Option Text
  | [], t => some t
  | _ :: _, [] => none
  | a :: s, c :: t => if a = c then afterPrefix? s t else none

/-- The text without one closing `last`, where it ends in it. -/
def beforeSuffix? (last : Char) : Text → Option Text
  | [] => none
  | [c] => if c = last then some [] else none
  | c :: d :: r => (beforeSuffix? last (d :: r)).map (c :: ·)

def join (sep : Text) (parts : List Text) : Text := List.intercalate sep parts

/-- The lines of a text. A line feed ends a line and takes one carriage return before it along;
    text after the last line feed is a line of its own if there is any. -/
def lines (t : Text) : List Text := go (splitWhen (· == '\n') t)
where
  go : List Text → List Text
    | [] => []
    | [p] => if p.isEmpty then [] else [p]
    | p :: q :: ps => (beforeSuffix? '\r' p).getD p :: go (q :: ps)

theorem toLower_toLower (c : Char) : c.toLower.toLower = c.toLower := by
  unfold Char.toLower
  split
  · rename_i h
    have hle : c.val.toNat ≤ 90 := UInt32.le_iff_toNat_le.1 h.2
    have hge : 65 ≤ c.val.toNat := UInt32.le_iff_toNat_le.1 h.1
    split
    · rename_i h'
      have hlow : (c.val + ('a'.val - 'A'.val)).toNat ≤ 90 := UInt32.le_iff_toNat_le.1 h'.2
      have hshift : ('a'.val - 'A'.val).toNat = 32 := by decide
      rw [UInt32.toNat_add, hshift] at hlow
      omega
    · rfl
  · simp

theorem lower_lower (t : Text) : lower (lower t) = lower t := by
  unfold lower
  rw [List.map_map]
  exact List.map_congr_left fun c _ => toLower_toLower c

end Text
end Recipients
