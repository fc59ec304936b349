/-!
# Blank characters

The characters that may stand around a number without being part of it.
-/

namespace Deduce.Text

/-- Unicode white space, and the four information separators U+001C to U+001F. -/
def isBlank (c : Char) : Bool :=
  let n := c.toNat
  (0x9 ≤ n && n ≤ 0xD) || (0x1C ≤ n && n ≤ 0x20) || n == 0x85 || n == 0xA0 || n == 0x1680 ||
    (0x2000 ≤ n && n ≤ 0x200A) || n == 0x2028 || n == 0x2029 || n == 0x202F || n == 0x205F ||
    n == 0x3000

def stripEnd (cs : List Char) : List Char :=
  (cs.reverse.dropWhile isBlank).reverse

def strip (cs : List Char) : List Char :=
  stripEnd (cs.dropWhile isBlank)

@[simp] theorem strip_nil : strip [] = [] := rfl

/-- Nothing is taken from a text that neither begins nor ends with a blank. -/
theorem strip_eq_self {cs : List Char} (first : ∀ c ∈ cs.head?, isBlank c = false)
    (last : ∀ c ∈ cs.getLast?, isBlank c = false) : strip cs = cs := by
  have h : cs.dropWhile isBlank = cs := by
    cases cs with
    | nil => rfl
    | cons c rest => simp_all [List.dropWhile]
  have h' : cs.reverse.dropWhile isBlank = cs.reverse := by
    rw [← List.head?_reverse] at last
    generalize cs.reverse = r at last
    cases r with
    | nil => rfl
    | cons c rest => simp_all [List.dropWhile]
  rw [strip, stripEnd, h, h', List.reverse_reverse]

end Deduce.Text
