/-!
# Blank characters and trimming

The blank characters of Unicode, with the four information separators counted
among them, and the removal of blanks at the ends of a text.
-/

namespace PathExpr.Text

/-- Whether trimming removes the character. -/
def isBlank (c : Char) : Bool :=
  let code := c.toNat
  (9 ≤ code && code ≤ 13) || (28 ≤ code && code ≤ 32) || code == 0x85 || code == 0xa0 ||
  code == 0x1680 || (0x2000 ≤ code && code ≤ 0x200a) || code == 0x2028 || code == 0x2029 ||
  code == 0x202f || code == 0x205f || code == 0x3000

/-- Removes the longest final run of characters that satisfy the test. -/
def dropEndWhile (test : Char → Bool) (cs : List Char) : List Char :=
  (cs.reverse.dropWhile test).reverse

/-- The characters without the blanks at both ends. -/
def trimChars (cs : List Char) : List Char :=
  dropEndWhile isBlank (cs.dropWhile isBlank)

/-- The text without the blanks at both ends. -/
def trim (s : String) : String :=
  String.ofList (trimChars s.toList)

/-- The text without the blanks at its start. -/
def trimStart (s : String) : String :=
  String.ofList (s.toList.dropWhile isBlank)

/-- Whether the text has only blank characters; the empty text has. -/
def isAllBlank (s : String) : Bool :=
  s.toList.all isBlank

@[simp]
theorem toList_trim (s : String) : (trim s).toList = trimChars s.toList := by
  simp [trim]

theorem length_dropEndWhile_le (test : Char → Bool) (cs : List Char) :
    (dropEndWhile test cs).length ≤ cs.length := by
  simpa [dropEndWhile] using (List.dropWhile_sublist test (l := cs.reverse)).length_le

theorem length_trimChars_le (cs : List Char) : (trimChars cs).length ≤ cs.length :=
  Nat.le_trans (length_dropEndWhile_le _ _) (List.dropWhile_sublist _).length_le

theorem length_trim_le (s : String) : (trim s).length ≤ s.length := by
  simpa [← String.length_toList] using length_trimChars_le s.toList

end PathExpr.Text
