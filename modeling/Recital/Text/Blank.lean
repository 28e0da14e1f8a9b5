/-!
# White space and blank text

* `isWhiteSpace` : the characters with the Unicode property White_Space.
* `isBlank` : a text is blank when no character of it is anything else.
* `isBlank_iff` : blank exactly when every character is white space, so the empty text is blank.
-/

set_option autoImplicit false

namespace Recital.Text

/-- The characters with the Unicode property White_Space. -/
def isWhiteSpace (c : Char) : Bool :=
  let n := c.toNat
  (0x09 ≤ n && n ≤ 0x0D) || n == 0x20 || n == 0x85 || n == 0xA0 || n == 0x1680 ||
    (0x2000 ≤ n && n ≤ 0x200A) || n == 0x2028 || n == 0x2029 || n == 0x202F || n == 0x205F ||
    n == 0x3000

/-- Whether a text has no character but white space. -/
def isBlank (s : String) : Bool :=
  s.toList.all isWhiteSpace

theorem isBlank_iff {s : String} : isBlank s = true ↔ ∀ c ∈ s.toList, isWhiteSpace c = true := by
  simp [isBlank, List.all_eq_true]

/-- Drops the white space at the start of a text. -/
def trimStart (cs : List Char) : List Char :=
  cs.dropWhile isWhiteSpace

theorem trimStart_length_le (cs : List Char) : (trimStart cs).length ≤ cs.length :=
  (List.dropWhile_sublist _).length_le

end Recital.Text
