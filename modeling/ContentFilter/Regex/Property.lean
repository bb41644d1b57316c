import ContentFilter.Regex.Basic
import ContentFilter.Regex.Property.Basic

namespace ContentFilter.Regex.Property

open Unicode

def without (s : CharSet) (others : List CharSet) : CharSet := .inter s (.compl (.unionAll others))

def chars (all : List Char) : CharSet := .unionAll (all.map .single)

def joiner : CharSet := .single '\u200D'

def carriageReturn : CharSet := .single '\r'

def lineFeed : CharSet := .single '\n'

def regional : CharSet := .table Property.regionalIndicator

def markOrModifier : CharSet :=
  .unionAll [graphemeExtend, .table Category.spacingMark, .table Property.emojiModifier]

namespace Grapheme

def extend : CharSet := .union graphemeExtend (.table Property.emojiModifier)

/-- Signs that enclose the digits after them, and the forms of r that are written before. -/
def prepend : CharSet :=
  .union (.table Property.prependedConcatenationMark)
    (.table [(0xD4E, 0xD4E), (0x111C2, 0x111C3), (0x113D1, 0x113D1), (0x1193F, 0x1193F),
      (0x11941, 0x11941), (0x11A3A, 0x11A3A), (0x11A84, 0x11A89), (0x11D46, 0x11D46),
      (0x11F02, 0x11F02)])

def control : CharSet :=
  without
    (.union (tables [Category.lineSeparator, Category.paragraphSeparator, Category.control,
        Category.format])
      (.inter unassigned (.table Property.defaultIgnorableCodePoint)))
    [carriageReturn, lineFeed, joiner, extend, prepend]

def detached : Ranges :=
  [(0x102B, 0x102C), (0x1038, 0x1038), (0x1062, 0x1064), (0x1067, 0x106D), (0x1083, 0x1083),
   (0x1087, 0x108C), (0x108F, 0x108F), (0x109A, 0x109C), (0x1A61, 0x1A61), (0x1A63, 0x1A64),
   (0xAA7B, 0xAA7B), (0xAA7D, 0xAA7D), (0x11720, 0x11721)]

def spacingMark : CharSet :=
  without (.union (.table Category.spacingMark) (chars ['\u0E33', '\u0EB3']))
    [extend, .table detached]

def openSyllables : Ranges :=
  (List.range 399).map fun i => (0xAC00 + 28 * i, 0xAC00 + 28 * i)

def closedSyllables : Ranges :=
  (List.range 399).map fun i => (0xAC01 + 28 * i, 0xAC1B + 28 * i)

def classes : List (List String × CharSet) :=
  [(["cn", "control"], control), (["cr"], carriageReturn), (["ex", "extend"], extend),
    (["l"], .table [(0x1100, 0x115F), (0xA960, 0xA97C)]), (["lf"], lineFeed),
    (["lv"], .table openSyllables), (["lvt"], .table closedSyllables), (["pp", "prepend"], prepend),
    (["ri", "regionalindicator"], regional), (["sm", "spacingmark"], spacingMark),
    (["t"], .table [(0x11A8, 0x11FF), (0xD7CB, 0xD7FB)]),
    (["v"], .table [(0x1160, 0x11A7), (0xD7B0, 0xD7C6), (0x16D63, 0x16D63), (0x16D67, 0x16D6A)]),
    (["zwj"], joiner)]

end Grapheme

def numberSigns : CharSet :=
  without (.table Property.prependedConcatenationMark) [.single '\u070F']

def digits : CharSet := .unionAll [.digit, numberSigns, .single '\u066B']

namespace Word

def newline : CharSet := chars ['\x0B', '\x0C', '\u0085', '\u2028', '\u2029']

def extend : CharSet := without markOrModifier [joiner]

def katakana : CharSet :=
  .union (.table Script.katakana)
    (.table [(0x3031, 0x3035), (0x309B, 0x309C), (0x30A0, 0x30A0), (0x30FC, 0x30FC),
      (0xFF70, 0xFF70)])

def hebrewLetter : CharSet := .inter (.table Script.hebrew) (.table Category.otherLetter)

/-- Scripts that leave no space between words. -/
def unspaced : CharSet :=
  tables [Script.thai, Script.laoo, Script.khmer, Script.myanmar, Script.taiLe, Script.newTaiLue,
    Script.taiTham, Script.taiViet, Script.ahom, Script.hiragana]

def letterLike : Ranges :=
  [(0x2C2, 0x2C5), (0x2D2, 0x2D7), (0x2DE, 0x2DF), (0x2E5, 0x2EB), (0x2ED, 0x2ED), (0x2EF, 0x2FF),
   (0x55A, 0x55C), (0x55E, 0x55E), (0x58A, 0x58A), (0x5F3, 0x5F3), (0x70F, 0x70F),
   (0xA708, 0xA716), (0xA720, 0xA721), (0xA789, 0xA78A), (0xAB5B, 0xAB5B)]

def letter : CharSet :=
  without (.union alphabetic (.table letterLike))
    [.table Property.ideographic, katakana, hebrewLetter, unspaced, extend]

def format : CharSet :=
  without (.table Category.format)
    [.single '\u200B', extend, joiner, .table Property.prependedConcatenationMark]

def midBoth : CharSet :=
  chars ['.', '\u2018', '\u2019', '\u2024', '\uFE52', '\uFF07', '\uFF0E']

def midLetter : CharSet :=
  chars [':', '\u00B7', '\u0387', '\u055F', '\u05F4', '\u2027', '\uFE13', '\uFE55', '\uFF1A']

def midNumber : CharSet :=
  chars [',', ';', '\u037E', '\u0589', '\u060C', '\u060D', '\u066C', '\u07F8', '\u2044', '\uFE10',
    '\uFE14', '\uFE50', '\uFE54', '\uFF0C', '\uFF1B']

def extendNumberLetter : CharSet :=
  .union (.table Category.connectorPunctuation) (.single '\u202F')

def space : CharSet :=
  without (.table Category.spaceSeparator) [chars ['\u00A0', '\u2007', '\u202F']]

def classes : List (List String × CharSet) :=
  [(["cr"], carriageReturn), (["dq", "doublequote"], .single '"'),
    (["ex", "extendnumlet"], extendNumberLetter), (["extend"], extend), (["fo", "format"], format),
    (["hl", "hebrewletter"], hebrewLetter), (["ka", "katakana"], katakana),
    (["le", "aletter"], letter), (["lf"], lineFeed), (["mb", "midnumlet"], midBoth),
    (["ml", "midletter"], midLetter), (["mn", "midnum"], midNumber), (["nl", "newline"], newline),
    (["nu", "numeric"], digits), (["ri", "regionalindicator"], regional),
    (["sq", "singlequote"], .single '\x27'), (["wsegspace"], space), (["zwj"], joiner)]

end Word

namespace Sentence

def extend : CharSet := .unionAll [graphemeExtend, .table Category.spacingMark, joiner]

def separator : CharSet := chars ['\u0085', '\u2028', '\u2029']

def format : CharSet :=
  without (.table Category.format) [extend, .table Property.prependedConcatenationMark]

def space : CharSet := without (.table Property.whiteSpace) [separator, carriageReturn, lineFeed]

/-- Georgian letters begin sentences in either case. -/
def lower : CharSet := without lowercase [extend, .table georgianSmall]

def upper : CharSet :=
  without (.union uppercase (.table Category.titlecaseLetter)) [.table [(0x1C90, 0x1CBF)]]

def otherLetter : CharSet :=
  without (.union alphabetic (chars ['\u05F3', '\u070F'])) [extend, lower, upper]

def fullStop : CharSet := chars ['.', '\u2024', '\uFE52', '\uFF0E']

def continuation : CharSet :=
  chars [',', '-', ':', ';', '\u037E', '\u055D', '\u060C', '\u060D', '\u07F8', '\u1802', '\u1808',
    '\u2013', '\u2014', '\u3001', '\uFE10', '\uFE11', '\uFE13', '\uFE14', '\uFE31', '\uFE32',
    '\uFE50', '\uFE51', '\uFE54', '\uFE55', '\uFE58', '\uFE63', '\uFF0C', '\uFF0D', '\uFF1A',
    '\uFF1B', '\uFF64']

def terminal : CharSet := without (.table Property.sentenceTerminal) [fullStop]

def quotes : Ranges :=
  [(0x22, 0x22), (0x27, 0x27), (0x275B, 0x2760), (0x2E00, 0x2E01), (0x2E06, 0x2E08),
   (0x2E0B, 0x2E0B), (0x1F676, 0x1F678)]

def close : CharSet :=
  tables [Category.openPunctuation, Category.closePunctuation, Category.initialPunctuation,
    Category.finalPunctuation, quotes]

def classes : List (List String × CharSet) :=
  [(["at", "aterm"], fullStop), (["cl", "close"], close), (["cr"], carriageReturn),
    (["ex", "extend"], extend), (["fo", "format"], format), (["le", "oletter"], otherLetter),
    (["lf"], lineFeed), (["lo", "lower"], lower),
    (["nu", "numeric"], .union digits (.single '\u066C')),
    (["sc", "scontinue"], continuation), (["se", "sep"], separator), (["sp"], space),
    (["st", "sterm"], terminal), (["up", "upper"], upper)]

end Sentence

/-- What is compared of a name. The name `isc` keeps its beginning, for `c` alone is another. -/
def looseName (name : Text) : String :=
  let hasIs := Text.equalIgnoringCase (name.take 2) ['i', 's']
  let kept : Text := (if hasIs then name.drop 2 else name).filter fun c =>
    c.toNat < 128 && c != ' ' && c != '_' && c != '-'
  let kept := kept.asciiLower
  String.ofList (if hasIs && kept == ['c'] then ['i', 's', 'c'] else kept)

def find? {α : Type} (name : String) (entries : List (List String × α)) : Option α :=
  (entries.find? fun entry => entry.1.contains name).map (·.2)

def named? (name : Text) : Option CharSet :=
  let name := looseName name
  (find? name binary <|> find? name category) <|> find? name script

def families : List (List String × List (List String × CharSet)) :=
  [(["gc", "generalcategory"], category), (["sc", "script"], script),
    (["scx", "scriptextensions"], scriptExtension), (["age"], age),
    (["gcb", "graphemeclusterbreak"], Grapheme.classes),
    (["sb", "sentencebreak"], Sentence.classes), (["wb", "wordbreak"], Word.classes)]

def valued? (name value : Text) : Option CharSet := do
  let values ← find? (looseName name) families
  find? (looseName value) values

end ContentFilter.Regex.Property
