namespace MTConnect.Text

/-!
# White space

The white space of Unicode: 25 characters. Trimming drops white space from
both ends of a text; the inside is untouched.
-/

/-- Whether a character is white space. -/
def isBlank (character : Char) : Bool :=
  let code := character.toNat
  (0x09 ≤ code && code ≤ 0x0D) || code == 0x20 || code == 0x85 ||
    code == 0xA0 || code == 0x1680 || (0x2000 ≤ code && code ≤ 0x200A) ||
    code == 0x2028 || code == 0x2029 || code == 0x202F ||
    code == 0x205F || code == 0x3000

/-- Drop white space from the end of a text. -/
def trimEnd (text : List Char) : List Char :=
  (text.reverse.dropWhile isBlank).reverse

/-- Drop white space from both ends of a text. -/
def trim (text : List Char) : List Char :=
  trimEnd (text.dropWhile isBlank)

/-- A text with nothing blank at its ends is left as it is. -/
theorem trim_eq_self
    {text : List Char}
    (headVisible :
      ∀ character ∈ text.head?, isBlank character = false)
    (lastVisible :
      ∀ character ∈ text.getLast?, isBlank character = false) :
    trim text = text := by
  have keepHead :
      ∀ list : List Char,
        (∀ character ∈ list.head?, isBlank character = false) →
        list.dropWhile isBlank = list := by
    intro list visible
    cases list with
    | nil =>
        rfl
    | cons first rest =>
        simp [List.dropWhile, visible first (by simp)]
  unfold trim trimEnd
  rw [keepHead text headVisible, keepHead text.reverse, List.reverse_reverse]
  intro character member
  exact lastVisible character (by simpa using member)

end MTConnect.Text
