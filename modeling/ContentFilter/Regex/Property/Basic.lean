import ContentFilter.Regex.Basic
import ContentFilter.Unicode.Age
import ContentFilter.Unicode.Script
import ContentFilter.Unicode.Script.Extension

namespace ContentFilter.Regex.Property

open Unicode

def tables := CharSet.tables

def unassigned : CharSet := .compl (tables Category.assigned)

def category : List (List String × CharSet) :=
  [(["any"], .any),
    (["assigned"], tables Category.assigned),
    (["ascii"], .range '\x00' '\x7F'),
    (["c", "other"], .union unassigned
      (tables [Category.control, Category.format, Category.privateUse])),
    (["cc", "control", "cntrl"], .table Category.control),
    (["cf", "format"], .table Category.format),
    (["cn", "unassigned"], unassigned),
    (["co", "privateuse"], .table Category.privateUse),
    (["l", "letter"], tables Category.letter),
    (["lc", "casedletter"], tables Category.casedLetter),
    (["ll", "lowercaseletter"], .table Category.lowercaseLetter),
    (["lm", "modifierletter"], .table Category.modifierLetter),
    (["lo", "otherletter"], .table Category.otherLetter),
    (["lt", "titlecaseletter"], .table Category.titlecaseLetter),
    (["lu", "uppercaseletter"], .table Category.uppercaseLetter),
    (["m", "mark", "combiningmark"], tables Category.mark),
    (["mc", "spacingmark"], .table Category.spacingMark),
    (["me", "enclosingmark"], .table Category.enclosingMark),
    (["mn", "nonspacingmark"], .table Category.nonspacingMark),
    (["n", "number"], tables Category.number),
    (["nd", "decimalnumber", "digit"], .table Category.decimalNumber),
    (["nl", "letternumber"], .table Category.letterNumber),
    (["no", "othernumber"], .table Category.otherNumber),
    (["p", "punctuation", "punct"], tables Category.punctuation),
    (["pc", "connectorpunctuation"], .table Category.connectorPunctuation),
    (["pd", "dashpunctuation"], .table Category.dashPunctuation),
    (["pe", "closepunctuation"], .table Category.closePunctuation),
    (["pf", "finalpunctuation"], .table Category.finalPunctuation),
    (["pi", "initialpunctuation"], .table Category.initialPunctuation),
    (["po", "otherpunctuation"], .table Category.otherPunctuation),
    (["ps", "openpunctuation"], .table Category.openPunctuation),
    (["s", "symbol"], tables Category.symbol),
    (["sc", "currencysymbol"], .table Category.currencySymbol),
    (["sk", "modifiersymbol"], .table Category.modifierSymbol),
    (["sm", "mathsymbol"], .table Category.mathSymbol),
    (["so", "othersymbol"], .table Category.otherSymbol),
    (["z", "separator"], tables Category.separator),
    (["zl", "lineseparator"], .table Category.lineSeparator),
    (["zp", "paragraphseparator"], .table Category.paragraphSeparator),
    (["zs", "spaceseparator"], .table Category.spaceSeparator)]

open Unicode

def script : List (List String × CharSet) :=
  Script.table.map fun (names, ranges) => (names, .table ranges)

/-- The characters that are used with a script, which has the first of its names in the table of
extensions. Those that have scripts there count neither as common nor as inherited. -/
def usedWith (names : List String) (ranges : Ranges) : CharSet :=
  if names.contains "zyyy" || names.contains "zinh" then
    .inter (.table ranges) (.compl (.tables (Script.extensions.map (·.2))))
  else
    let shared := Script.extensions.filter fun entry => entry.1.any names.contains
    .union (.table ranges) (.tables (shared.map (·.2)))

def scriptExtension : List (List String × CharSet) :=
  Script.table.map fun (names, ranges) => (names, usedWith names ranges)

/-- Each version with the characters that it knows, those of the versions before it among them. -/
def agesFrom (earlier : List Unicode.Ranges) :
    List (List String × Unicode.Ranges) → List (List String × CharSet)
  | [] => []
  | (names, ranges) :: rest =>
    let known := ranges :: earlier
    (names, .tables known) :: agesFrom known rest

def age : List (List String × CharSet) := agesFrom [] Unicode.Age.table

open Unicode

def alphabetic : CharSet :=
  tables (Category.letter ++ [Category.letterNumber, Property.otherAlphabetic])

def lowercase : CharSet := tables [Category.lowercaseLetter, Property.otherLowercase]

def uppercase : CharSet := tables [Category.uppercaseLetter, Property.otherUppercase]

def cased : CharSet :=
  .unionAll [lowercase, uppercase, .table Category.titlecaseLetter]

def caseIgnorable : CharSet :=
  tables [Category.nonspacingMark, Category.enclosingMark, Category.format,
    Category.modifierLetter, Category.modifierSymbol, Property.otherCaseIgnorable]

def graphemeExtend : CharSet :=
  tables [Category.nonspacingMark, Category.enclosingMark, Property.otherGraphemeExtend]

def graphemeBase : CharSet :=
  .compl (.unionAll [graphemeExtend, unassigned,
    tables [Category.control, Category.format, Category.privateUse, Category.lineSeparator,
      Category.paragraphSeparator]])

def patternSyntaxOrSpace : CharSet := tables [Property.patternSyntax, Property.patternWhiteSpace]

def idStart : CharSet :=
  .inter (tables (Category.letter ++ [Category.letterNumber, Property.otherIdStart]))
    (.compl patternSyntaxOrSpace)

def idContinue : CharSet :=
  .inter (.union idStart (tables [Category.nonspacingMark, Category.spacingMark,
      Category.decimalNumber, Category.connectorPunctuation, Property.otherIdContinue]))
    (.compl patternSyntaxOrSpace)

def changesWhenLowered : CharSet :=
  .inter (.unionAll [.asciiUpper, .single '\u0130', .table (CaseRun.sources lowerRuns)])
    (.compl (.table Latest.addedCased))

def hasVariants : CharSet := tables [CaseRun.sources foldingRuns, CaseRun.images foldingRuns]

def widened : Ranges :=
  [(0x131, 0x131), (0x149, 0x149), (0x1F0, 0x1F0), (0x587, 0x587), (0x1E96, 0x1E9A),
   (0x1F50, 0x1F50), (0x1F52, 0x1F52), (0x1F54, 0x1F54), (0x1F56, 0x1F56), (0x1FB2, 0x1FB2),
   (0x1FB4, 0x1FB4), (0x1FB6, 0x1FB7), (0x1FC2, 0x1FC2), (0x1FC4, 0x1FC4), (0x1FC6, 0x1FC7),
   (0x1FD2, 0x1FD2), (0x1FD6, 0x1FD7), (0x1FE2, 0x1FE2), (0x1FE4, 0x1FE4), (0x1FE6, 0x1FE7),
   (0x1FF2, 0x1FF2), (0x1FF4, 0x1FF4), (0x1FF6, 0x1FF7), (0xFB00, 0xFB04), (0xFB13, 0xFB17)]

/-- Letters with a capital form: small ones, and those that are a capital and a small one in a
single character. -/
def changesWhenUppered : CharSet :=
  .unionAll [.inter hasVariants (.compl changesWhenLowered),
    .inter hasVariants (.table Category.titlecaseLetter), .table widened]

def georgianSmall : Ranges := [(0x10D0, 0x10FA), (0x10FD, 0x10FF)]

/-- Pairs of capitals in a single character, of which a title keeps only the first. -/
def capitalPairs : Ranges := [(0x1C4, 0x1C4), (0x1C7, 0x1C7), (0x1CA, 0x1CA), (0x1F1, 0x1F1)]

def changesWhenTitled : CharSet :=
  .union (.inter changesWhenUppered (.compl (tables [Category.titlecaseLetter, georgianSmall])))
    (.table capitalPairs)

def unfolded : Ranges :=
  [(0xDF, 0xDF), (0x130, 0x130), (0x149, 0x149), (0x587, 0x587), (0x1E9A, 0x1E9A),
   (0x1F80, 0x1F87), (0x1F90, 0x1F97), (0x1FA0, 0x1FA7), (0x1FB2, 0x1FB4), (0x1FB7, 0x1FB7),
   (0x1FC2, 0x1FC4), (0x1FC7, 0x1FC7), (0x1FF2, 0x1FF4), (0x1FF7, 0x1FF7), (0xFB00, 0xFB05),
   (0xFB13, 0xFB17)]

/-- Letters that fold to another one, unless they are only another spelling of it. -/
def changesWhenFolded : CharSet :=
  .inter (tables [CaseRun.sources foldingRuns, unfolded])
    (.compl (.table [(0x1FBE, 0x1FBE), (0x1FD3, 0x1FD3), (0x1FE3, 0x1FE3)]))

def changesWhenMapped : CharSet :=
  .unionAll [changesWhenLowered, changesWhenUppered, changesWhenTitled]

def binary : List (List String × CharSet) :=
  [(["ahex", "asciihexdigit"], .table Property.asciiHexDigit),
    (["alpha", "alphabetic"], alphabetic),
    (["bidic", "bidicontrol"], .table Property.bidiControl),
    (["bidim", "bidimirrored"], .table Property.bidiMirrored),
    (["ci", "caseignorable"], caseIgnorable),
    (["cased"], cased),
    (["cwcf", "changeswhencasefolded"], changesWhenFolded),
    (["cwcm", "changeswhencasemapped"], changesWhenMapped),
    (["cwl", "changeswhenlowercased"], changesWhenLowered),
    (["cwt", "changeswhentitlecased"], changesWhenTitled),
    (["cwu", "changeswhenuppercased"], changesWhenUppered),
    (["dash"], .table Property.dash),
    (["di", "defaultignorablecodepoint"], .table Property.defaultIgnorableCodePoint),
    (["dep", "deprecated"], .table Property.deprecated),
    (["dia", "diacritic"], .table Property.diacritic),
    (["emoji"], .table Property.emoji),
    (["ecomp", "emojicomponent"], .table Property.emojiComponent),
    (["emod", "emojimodifier"], .table Property.emojiModifier),
    (["ebase", "emojimodifierbase"], .table Property.emojiModifierBase),
    (["epres", "emojipresentation"], .table Property.emojiPresentation),
    (["extpict", "extendedpictographic"], .table Property.extendedPictographic),
    (["ext", "extender"], .table Property.extender),
    (["grbase", "graphemebase"], graphemeBase),
    (["grext", "graphemeextend"], graphemeExtend),
    (["grlink", "graphemelink"], .table Property.graphemeLink),
    (["hex", "hexdigit"], .table Property.hexDigit),
    (["hyphen"], .table Property.hyphen),
    (["idsb", "idsbinaryoperator"], .table Property.idsBinaryOperator),
    (["idst", "idstrinaryoperator"], .table Property.idsTrinaryOperator),
    (["idsu", "idsunaryoperator"], .table Property.idsUnaryOperator),
    (["idcompatmathcontinue"], .table Property.mathIdentifierContinue),
    (["idcompatmathstart"], .table Property.mathIdentifierStart),
    (["idc", "idcontinue"], idContinue),
    (["ids", "idstart"], idStart),
    (["ideo", "ideographic"], .table Property.ideographic),
    (["joinc", "joincontrol"], .table Property.joinControl),
    (["loe", "logicalorderexception"], .table Property.logicalOrderException),
    (["lower", "lowercase"], lowercase),
    (["math"], tables [Category.mathSymbol, Property.otherMath]),
    (["mcm", "modifiercombiningmark"], .table Property.modifierCombiningMark),
    (["nchar", "noncharactercodepoint"], .table Property.noncharacterCodePoint),
    (["oalpha", "otheralphabetic"], .table Property.otherAlphabetic),
    (["odi", "otherdefaultignorablecodepoint"], .table Property.otherDefaultIgnorable),
    (["ogrext", "othergraphemeextend"], .table Property.otherGraphemeExtend),
    (["oidc", "otheridcontinue"], .table Property.otherIdContinue),
    (["oids", "otheridstart"], .table Property.otherIdStart),
    (["olower", "otherlowercase"], .table Property.otherLowercase),
    (["omath", "othermath"], .table Property.otherMath),
    (["oupper", "otheruppercase"], .table Property.otherUppercase),
    (["patsyn", "patternsyntax"], .table Property.patternSyntax),
    (["patws", "patternwhitespace"], .table Property.patternWhiteSpace),
    (["pcm", "prependedconcatenationmark"], .table Property.prependedConcatenationMark),
    (["qmark", "quotationmark"], .table Property.quotationMark),
    (["radical"], .table Property.radical),
    (["ri", "regionalindicator"], .table Property.regionalIndicator),
    (["sterm", "sentenceterminal"], .table Property.sentenceTerminal),
    (["sd", "softdotted"], .table Property.softDotted),
    (["term", "terminalpunctuation"], .table Property.terminalPunctuation),
    (["uideo", "unifiedideograph"], .table Property.unifiedIdeograph),
    (["upper", "uppercase"], uppercase),
    (["vs", "variationselector"], .table Property.variationSelector),
    (["wspace", "whitespace", "space"], .table Property.whiteSpace),
    (["xidc", "xidcontinue"], .inter idContinue (.compl (.table Property.notXidContinue))),
    (["xids", "xidstart"], .inter idStart (.compl (.table Property.notXidStart)))]

end ContentFilter.Regex.Property
