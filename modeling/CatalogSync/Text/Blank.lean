/-!
# Blank characters

The characters that trimming removes and that separate words: the ASCII tab, line feed,
vertical tab, form feed and carriage return, the four information separators, the space, and
the Unicode spaces and line and paragraph separators.
-/

namespace CatalogSync.Text

def blankCodes : List Nat :=
  [0x09, 0x0A, 0x0B, 0x0C, 0x0D, 0x1C, 0x1D, 0x1E, 0x1F, 0x20, 0x85, 0xA0, 0x1680,
   0x2000, 0x2001, 0x2002, 0x2003, 0x2004, 0x2005, 0x2006, 0x2007, 0x2008, 0x2009, 0x200A,
   0x2028, 0x2029, 0x202F, 0x205F, 0x3000]

def isBlank (c : Char) : Bool := blankCodes.contains c.toNat

def trim (s : String) : String :=
  String.ofList (((s.toList.dropWhile isBlank).reverse.dropWhile isBlank).reverse)

def isBlankText (s : String) : Bool := s.toList.all isBlank

example : trim " \t a b \n" = "a b" := by decide

end CatalogSync.Text
