namespace AssetAudit.Text

/-! White space of every script, and the trimming of a text at both ends. -/

/-- The white space of Unicode, with the four information separators U+001C to U+001F. -/
def isBlank (c : Char) : Bool :=
  let code := c.toNat
  if code < 0x80 then
    (9 ≤ code && code ≤ 13) || (28 ≤ code && code ≤ 32)
  else
    code == 0x85 || code == 0xA0 || code == 0x1680 || (0x2000 ≤ code && code ≤ 0x200A) ||
      code == 0x2028 || code == 0x2029 || code == 0x202F || code == 0x205F || code == 0x3000

/-- Drops the longest end of the list on which `test` holds. -/
def dropEndWhile (test : α → Bool) (items : List α) : List α :=
  (items.reverse.dropWhile test).reverse

/-- A text without the white space at its two ends. -/
def strip (text : List Char) : List Char :=
  dropEndWhile isBlank (text.dropWhile isBlank)

@[simp] theorem strip_nil : strip [] = [] := rfl

end AssetAudit.Text
