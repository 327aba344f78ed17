import Recipients.Text

/-
  Punycode (RFC 3492): a label in ASCII letters, digits and hyphens. The ASCII characters of the
  label come first, then a hyphen if there were any, then for each further character, in ascending
  order, the distance from the one before in a mixed-radix number. Numbers keep to 32 bits.
-/

namespace Recipients.Domain
namespace Punycode

/-- Digits count from `a` to `z` and on from `0` to `9`. -/
def digitChar (d : Nat) : Char :=
  if d < 26 then Char.ofNat (0x61 + d) else Char.ofNat (0x30 + (d - 26))

def digitValue? (c : Char) : Option Nat :=
  let n := c.toNat
  if 0x61 ≤ n ∧ n ≤ 0x7A then some (n - 0x61)
  else if 0x41 ≤ n ∧ n ≤ 0x5A then some (n - 0x41)
  else if 0x30 ≤ n ∧ n ≤ 0x39 then some (n - 0x30 + 26)
  else none

/-- A digit below the threshold of its place ends a number. -/
def threshold (bias k : Nat) : Nat := min (max (k - bias) 1) 26

theorem threshold_bounds (bias k : Nat) : 1 ≤ threshold bias k ∧ threshold bias k ≤ 26 := by
  unfold threshold
  omega

/-- Divides a distance down until it is small, counting the places. -/
def settleBias (delta k : Nat) : Nat :=
  if 455 < delta then settleBias (delta / 35) (k + 36) else k + 36 * delta / (delta + 38)
termination_by delta

/-- The bias after a distance `delta` to the `count`-th character. -/
def adapt (delta count : Nat) (first : Bool) : Nat :=
  let d := if first then delta / 700 else delta / 2
  settleBias (d + d / count) 0

def encodeNumber (bias k q : Nat) : Text :=
  let t := threshold bias k
  if q < t then [digitChar q]
  else digitChar (t + (q - t) % (36 - t)) :: encodeNumber bias (k + 36) ((q - t) / (36 - t))
termination_by q
decreasing_by
  have := threshold_bounds bias k
  exact Nat.lt_of_le_of_lt (Nat.div_le_self _ _) (by omega)

/-- A label while it is written: the number to come, and the characters placed so far. -/
structure Writing where
  out : Text := []
  delta : Nat := 0
  bias : Nat := 72
  placed : Nat

namespace Writing

/-- Passes over one character of the label while placing `code`. -/
def visit (basic code : Nat) (w : Writing) (c : Char) : Writing :=
  if c.toNat < code then { w with delta := w.delta + 1 }
  else if c.toNat = code then
    { out := w.out ++ encodeNumber w.bias 36 w.delta
      delta := 0
      bias := adapt w.delta (w.placed + 1) (w.placed == basic)
      placed := w.placed + 1 }
  else w

/-- Places each of `codes`, in ascending order, the first of them at least `next`. -/
def place (label : Text) (basic : Nat) (w : Writing) (next : Nat) : List Nat → Writing
  | [] => w
  | code :: codes =>
    let v : Writing := { w with delta := w.delta + (code - next) * (w.placed + 1) }
    let u := label.foldl (visit basic code) v
    place label basic { u with delta := u.delta + 1 } (code + 1) codes

end Writing

/-- Keeps a list ascending and without repetition. -/
def insertCode (n : Nat) : List Nat → List Nat
  | [] => [n]
  | m :: ms => if n < m then n :: m :: ms else if n = m then m :: ms else m :: insertCode n ms

/-- The longest label that is encoded. -/
def encodeLimit : Nat := 1000

/-- The longest encoded label that is decoded. -/
def decodeLimit : Nat := 2000

def encode (label : Text) : Text :=
  let basic := label.filter fun c => c.toNat < 128
  let codes := ((label.map Char.toNat).filter fun n => 128 ≤ n).foldr insertCode []
  let w := Writing.place label basic.length { placed := basic.length } 128 codes
  (if basic.isEmpty then [] else basic ++ ['-']) ++ w.out

/-- Reads one number onto `i`, and yields what is left. -/
def decodeNumber (bias k weight i : Nat) : Text → Option (Nat × Text)
  | [] => none
  | c :: r =>
    match digitValue? c with
    | none => none
    | some d =>
      let t := threshold bias k
      let j := i + d * weight
      if UInt32.size ≤ j then none
      else if d < t then some (j, r)
      else if UInt32.size ≤ weight * (36 - t) then none
      else decodeNumber bias (k + 36) (weight * (36 - t)) j r

theorem decodeNumber_length {bias k weight i j : Nat} {cs r : Text}
    (h : decodeNumber bias k weight i cs = some (j, r)) : r.length < cs.length := by
  induction cs generalizing k weight i with
  | nil => simp [decodeNumber] at h
  | cons c cs ih =>
    simp only [decodeNumber] at h
    split at h
    · simp at h
    · split at h
      · simp at h
      · split at h
        · simp_all
        · split at h
          · simp at h
          · exact Nat.lt_succ_of_lt (ih h)

def charOfCode? (n : Nat) : Option Char :=
  if h : n.isValidChar then some (Char.ofNatAux n h) else none

/-- Inserts the characters that the rest of the input stands for. -/
def decodeFrom (bias code i : Nat) (out cs : Text) : Option Text :=
  match cs with
  | [] => some out
  | c :: r =>
    match _h : decodeNumber bias 36 1 i (c :: r) with
    | none => none
    | some (j, rest) =>
      let count := out.length + 1
      match charOfCode? (code + j / count) with
      | none => none
      | some d =>
        let place := j % count
        decodeFrom (adapt (j - i) count (i == 0)) (code + j / count) (place + 1)
          (out.take place ++ d :: out.drop place) rest
termination_by cs.length
decreasing_by exact decodeNumber_length _h

/-- A hyphen at the very start separates nothing. -/
def decode (encoded : Text) : Option Text :=
  match Text.cutLast '-' encoded with
  | some (c :: basic, rest) => decodeFrom 72 128 0 (c :: basic) rest
  | _ => decodeFrom 72 128 0 [] encoded

end Punycode
end Recipients.Domain
