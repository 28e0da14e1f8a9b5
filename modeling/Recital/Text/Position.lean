/-!
# Positions in a text

Positions count the bytes of the characters before them.

* `byteLength` : the number of bytes of a text.
* `fromByte?`, `uptoByte?` : the text from a position on, and the text before it, unless the position
  is inside a character; `eq_append_of_uptoByte?` : they make up the text.
* `fromByte?_append` : behind a text, the position of its length leads to what follows it.
* `slice?` : the text between two positions.
* `seek` : the first of some marks in a text, its position and the text after it.
-/

set_option autoImplicit false

namespace Recital.Text

/-- The number of bytes of a text. -/
def byteLength : List Char → Nat
  | [] => 0
  | c :: cs => c.utf8Size + byteLength cs

/-- The text from a position on.  No text starts inside a character or after the end. -/
def fromByte? : Nat → List Char → Option (List Char)
  | 0, cs => some cs
  | _ + 1, [] => none
  | n + 1, c :: cs => if c.utf8Size ≤ n + 1 then fromByte? (n + 1 - c.utf8Size) cs else none

/-- The text up to a position. -/
def uptoByte? : Nat → List Char → Option (List Char)
  | 0, _ => some []
  | _ + 1, [] => none
  | n + 1, c :: cs =>
    if c.utf8Size ≤ n + 1 then (uptoByte? (n + 1 - c.utf8Size) cs).map (c :: ·) else none

/-- The text between two positions. -/
def slice? (first last : Nat) (cs : List Char) : Option (List Char) :=
  (fromByte? first cs).bind (uptoByte? (last - first))

/-- The first of some marks in a text that starts at `position`: the mark, its position and the text
after it. -/
def seek (marks : List Char) (position : Nat) : List Char → Option (Char × Nat × List Char)
  | [] => none
  | c :: cs =>
    if marks.contains c then some (c, position, cs) else seek marks (position + c.utf8Size) cs

/-- What is cut off at a position and what stays make up the text. -/
theorem eq_append_of_uptoByte? {n : Nat} {cs before after : List Char}
    (hb : uptoByte? n cs = some before) (ha : fromByte? n cs = some after) :
    cs = before ++ after := by
  induction cs generalizing n before with
  | nil =>
    cases n with
    | zero => simp_all [uptoByte?, fromByte?]
    | succ n => simp [uptoByte?] at hb
  | cons c cs ih =>
    cases n with
    | zero => simp_all [uptoByte?, fromByte?]
    | succ n =>
      simp only [uptoByte?, fromByte?] at hb ha
      split at hb
      · rename_i h
        rw [if_pos h] at ha
        obtain ⟨rest, hrest, rfl⟩ := Option.map_eq_some_iff.1 hb
        simp [ih hrest ha]
      · simp at hb

/-- Behind a text, the position of its length leads to what follows it. -/
theorem fromByte?_append (before after : List Char) :
    fromByte? (byteLength before) (before ++ after) = some after := by
  induction before with
  | nil => simp [byteLength, fromByte?]
  | cons c cs ih =>
    have hc := c.utf8Size_pos
    obtain ⟨n, hn⟩ : ∃ n, byteLength (c :: cs) = n + 1 := ⟨byteLength (c :: cs) - 1, by
      simp only [byteLength]; omega⟩
    have hle : c.utf8Size ≤ n + 1 := by rw [← hn]; simp only [byteLength]; omega
    rw [hn, List.cons_append, fromByte?, if_pos hle, ← hn]
    simpa [byteLength] using ih

end Recital.Text
