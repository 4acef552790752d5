/-!
# White space

The characters with the white-space property, of any script, and trimming by them. A subject that is
blank, that is, empty after trimming, identifies nobody.
-/

namespace Bearer.Text

/-- The white-space characters. -/
def blanks : List Nat :=
  [0x9, 0xA, 0xB, 0xC, 0xD, 0x20, 0x85, 0xA0, 0x1680, 0x2000, 0x2001, 0x2002, 0x2003, 0x2004,
   0x2005, 0x2006, 0x2007, 0x2008, 0x2009, 0x200A, 0x2028, 0x2029, 0x202F, 0x205F, 0x3000]

/-- Whether a character is white space. -/
def isBlank (character : Char) : Bool :=
  blanks.contains character.toNat

/-- The text without leading white space. -/
def trimStart (text : List Char) : List Char :=
  text.dropWhile isBlank

/-- The text without trailing white space. -/
def trimEnd (text : List Char) : List Char :=
  (trimStart text.reverse).reverse

/-- Whether nothing is left of a text after trimming. -/
def isBlankText (text : String) : Bool :=
  text.toList.all isBlank

theorem trimStart_eq_nil_iff (text : List Char) :
    trimStart text = [] ↔ text.all isBlank = true := by
  induction text with
  | nil => simp [trimStart]
  | cons head tail ih =>
      cases blank : isBlank head with
      | false => simp [trimStart, blank]
      | true =>
          rw [trimStart, List.dropWhile_cons_of_pos blank, List.all_cons, blank, Bool.true_and]
          exact ih

theorem trimEnd_eq_nil_iff (text : List Char) : trimEnd text = [] ↔ text.all isBlank = true := by
  simp [trimEnd, trimStart_eq_nil_iff]

end Bearer.Text
