/-!
# Cutting texts

`cut` gives the parts between the characters with a property, so that there is
always one part more than there are separators. A line ends at a line feed, or at
a carriage return followed by a line feed; a carriage return alone stays in its
line. `trim` takes away the white space at the two ends of a text.
-/
namespace ImageBuild.Text

/-- The parts between the separators. -/
def cut (isSeparator : Char → Bool) : List Char → List (List Char)
  | [] => [[]]
  | c :: cs =>
    if isSeparator c then [] :: cut isSeparator cs
    else
      match cut isSeparator cs with
      | [] => [[c]]
      | l :: ls => (c :: l) :: ls

theorem cut_ne_nil (p : Char → Bool) (s : List Char) : cut p s ≠ [] := by
  cases s with
  | nil => simp [cut]
  | cons c cs =>
    by_cases h : p c
    · simp [cut, h]
    · simp only [cut, h, Bool.false_eq_true, if_false]
      split <;> simp

/-- What precedes the first occurrence of a character, and what follows it. -/
def cutFirst (sep : Char) : List Char → List Char × Option (List Char)
  | [] => ([], none)
  | c :: cs =>
    if c = sep then ([], some cs)
    else
      let (before, after) := cutFirst sep cs
      (c :: before, after)

/-- Cut at each line feed; the last part is what follows the last one. -/
def cutLines (s : List Char) : List (List Char) := cut (· == '\n') s

theorem cutLines_ne_nil (s : List Char) : cutLines s ≠ [] := cut_ne_nil _ s

/-- A line without the carriage return that precedes its line feed. -/
def dropReturn (line : List Char) : List Char :=
  if line.getLast? = some '\r' then line.dropLast else line

/-- The lines of a text. There is no empty last line. -/
def lines (s : List Char) : List (List Char) :=
  let parts := cutLines s
  let closed := parts.dropLast.map dropReturn
  match parts.getLast? with
  | some [] | none => closed
  | some open_ => closed ++ [open_]

/-- The lines of a text, each as a text of its own. -/
def linesOf (s : String) : List String :=
  (lines s.toList).map String.ofList

/-- A character with the property White_Space. -/
def isBlank (c : Char) : Bool :=
  let n := c.toNat
  (9 ≤ n && n ≤ 13) || n == 0x20 || n == 0x85 || n == 0xA0 || n == 0x1680 ||
    (0x2000 ≤ n && n ≤ 0x200A) || n == 0x2028 || n == 0x2029 || n == 0x202F ||
    n == 0x205F || n == 0x3000

/-- The text without the blank characters at its two ends. -/
def trim (s : List Char) : List Char :=
  ((s.dropWhile isBlank).reverse.dropWhile isBlank).reverse

/-- The text without the slashes at its two ends. -/
def trimSlashes (s : List Char) : List Char :=
  ((s.dropWhile (· == '/')).reverse.dropWhile (· == '/')).reverse

end ImageBuild.Text
