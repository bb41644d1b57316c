import ContentFilter.Unicode.Category
import ContentFilter.Unicode.Property
/-!
What version 17 of Unicode adds to version 16. The tables of this library are those of version 16,
which expressions go by; texts are written in small letters and in quotation marks by version 17.
-/
namespace ContentFilter.Unicode.Latest

def addedAlphabetic : Ranges :=
  [(0x88F, 0x88F), (0xC5C, 0xC5C), (0xCDC, 0xCDC), (0xA7CE, 0xA7CF), (0xA7D2, 0xA7D2),
   (0xA7D4, 0xA7D4), (0xA7F1, 0xA7F1), (0x10940, 0x10959), (0x10EC5, 0x10EC7), (0x10EFA, 0x10EFB),
   (0x11B60, 0x11B67), (0x11DB0, 0x11DDB), (0x16EA0, 0x16EB8), (0x16EBB, 0x16ED3),
   (0x16FF2, 0x16FF6), (0x187F8, 0x187FF), (0x18D09, 0x18D1E), (0x18D80, 0x18DF2),
   (0x1E6C0, 0x1E6DE), (0x1E6E0, 0x1E6F5), (0x1E6FE, 0x1E6FF), (0x2B73A, 0x2B73F),
   (0x2CEA2, 0x2CEAD), (0x323B0, 0x33479)]

def addedNumber : Ranges :=
  [(0x11DE0, 0x11DE9), (0x16FF4, 0x16FF6)]

def addedVisible : Ranges :=
  [(0x88F, 0x88F), (0xC5C, 0xC5C), (0xCDC, 0xCDC), (0x1ACF, 0x1ADD), (0x1AE0, 0x1AEB),
   (0x20C1, 0x20C1), (0x2B96, 0x2B96), (0xA7CE, 0xA7CF), (0xA7D2, 0xA7D2), (0xA7D4, 0xA7D4),
   (0xA7F1, 0xA7F1), (0xFBC3, 0xFBD2), (0xFD90, 0xFD91), (0xFDC8, 0xFDCE), (0x10940, 0x10959),
   (0x10EC5, 0x10EC7), (0x10ED0, 0x10ED8), (0x10EFA, 0x10EFB), (0x11B60, 0x11B67),
   (0x11DB0, 0x11DDB), (0x11DE0, 0x11DE9), (0x16EA0, 0x16EB8), (0x16EBB, 0x16ED3),
   (0x16FF2, 0x16FF6), (0x187F8, 0x187FF), (0x18D09, 0x18D1E), (0x18D80, 0x18DF2),
   (0x1CCFA, 0x1CCFC), (0x1CEBA, 0x1CED0), (0x1CEE0, 0x1CEF0), (0x1E6C0, 0x1E6DE),
   (0x1E6E0, 0x1E6F5), (0x1E6FE, 0x1E6FF), (0x1F6D8, 0x1F6D8), (0x1F777, 0x1F77A),
   (0x1F8D0, 0x1F8D8), (0x1FA54, 0x1FA57), (0x1FA8A, 0x1FA8A), (0x1FA8E, 0x1FA8E),
   (0x1FAC8, 0x1FAC8), (0x1FACD, 0x1FACD), (0x1FAEA, 0x1FAEA), (0x1FAEF, 0x1FAEF),
   (0x1FBFA, 0x1FBFA), (0x2B73A, 0x2B73F), (0x2CEA2, 0x2CEAD), (0x323B0, 0x33479)]

def addedGraphemeExtend : Ranges :=
  [(0x1ACF, 0x1ADD), (0x1AE0, 0x1AEB), (0x10EFA, 0x10EFB), (0x11B60, 0x11B60), (0x11B62, 0x11B64),
   (0x11B66, 0x11B66), (0x1E6E3, 0x1E6E3), (0x1E6E6, 0x1E6E6), (0x1E6EE, 0x1E6EF),
   (0x1E6F5, 0x1E6F5)]

def addedCased : Ranges :=
  [(0xA7CE, 0xA7CF), (0xA7D2, 0xA7D2), (0xA7D4, 0xA7D4), (0xA7F1, 0xA7F1), (0x16EA0, 0x16EB8),
   (0x16EBB, 0x16ED3)]

def addedCaseIgnorable : Ranges :=
  [(0x1ACF, 0x1ADD), (0x1AE0, 0x1AEB), (0xA7F1, 0xA7F1), (0x10EC5, 0x10EC5), (0x10EFA, 0x10EFB),
   (0x11B60, 0x11B60), (0x11B62, 0x11B64), (0x11B66, 0x11B66), (0x11DD9, 0x11DD9),
   (0x16FF2, 0x16FF3), (0x1E6E3, 0x1E6E3), (0x1E6E6, 0x1E6E6), (0x1E6EE, 0x1E6EF),
   (0x1E6F5, 0x1E6F5), (0x1E6FF, 0x1E6FF)]

def isAlphabetic (c : Char) : Bool :=
  Category.letter.any (·.has c) || Category.letterNumber.has c || Property.otherAlphabetic.has c ||
    addedAlphabetic.has c

def isNumber (c : Char) : Bool := Category.number.any (·.has c) || addedNumber.has c

/-- The letter that was small in version 16 and has no case any more. -/
def formerSmallLetter : Char := '\u0295'

def isCased (c : Char) : Bool :=
  c != formerSmallLetter &&
    (Category.casedLetter.any (·.has c) || Property.otherLowercase.has c ||
      Property.otherUppercase.has c || addedCased.has c)

def isCaseIgnorable (c : Char) : Bool :=
  [Category.nonspacingMark, Category.enclosingMark, Category.format, Category.modifierLetter,
    Category.modifierSymbol, Property.otherCaseIgnorable, addedCaseIgnorable].any (·.has c)

def extendsGrapheme (c : Char) : Bool :=
  [Category.nonspacingMark, Category.enclosingMark, Property.otherGraphemeExtend,
    addedGraphemeExtend].any (·.has c)

def isVisible (c : Char) : Bool :=
  (Category.letter ++ Category.mark ++ Category.number ++ Category.punctuation ++
    Category.symbol).any (·.has c) || addedVisible.has c

end ContentFilter.Unicode.Latest
