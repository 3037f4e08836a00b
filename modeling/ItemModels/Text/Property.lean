import ItemModels.Text.Age
import ItemModels.Text.Segment

namespace ItemModels
namespace Text
namespace Property

/-!
The properties of characters that a pattern may call, in version 16.0 of the standard.

A property that holds or does not is called by its name, and so are the general
categories and the scripts.  Categories, scripts, extended scripts, ages and the classes
of segmentation are also called as a value of a property.  What the standard defines
beyond these, such as blocks, numeric values and names of characters, has no set here,
and a pattern that calls it is refused.
-/

/-- Marks, modifiers and the signs inside of words: they do not part a letter from those that
decide its case. -/
def caseIgnorable : CharSet :=
  .unionAll [.ofRuns Category.nonspacingMark, .ofRuns Category.enclosingMark,
    .ofRuns Category.formatting, .ofRuns Category.modifierLetter, .ofRuns Category.modifierSymbol,
    Segment.midLetter, Segment.midBoth, .range 0x27 0x27]

/-- Alphabetic characters that are neither letters nor letter numbers. -/
def otherAlphabetic : CharSet :=
  .without CharClass.alphabetic (.union Category.letters (.ofRuns Category.letterNumber))

/-- The names of the properties that hold or do not. -/
def named : List (List String × CharSet) :=
  [(["ahex", "asciihexdigit"], .ofRuns asciiHexDigit),
   (["alpha", "alphabetic"], CharClass.alphabetic),
   (["bidic", "bidicontrol"], .ofRuns bidiControl),
   (["ci", "caseignorable"], caseIgnorable),
   (["cased"], cased),
   (["cwcf", "changeswhencasefolded"], changesWhenCasefolded),
   (["cwcm", "changeswhencasemapped"], changesWhenCasemapped),
   (["cwl", "changeswhenlowercased"], changesWhenLowercased),
   (["cwt", "changeswhentitlecased"], changesWhenTitlecased),
   (["cwu", "changeswhenuppercased"], changesWhenUppercased),
   (["dash"], dash),
   (["dep", "deprecated"], .ofRuns deprecated),
   (["di", "defaultignorablecodepoint"], defaultIgnorable),
   (["dia", "diacritic"], .ofRuns diacritic),
   (["ebase", "emojimodifierbase"], .ofRuns emojiModifierBase),
   (["ecomp", "emojicomponent"], .ofRuns emojiComponent),
   (["emod", "emojimodifier"], emojiModifier),
   (["emoji"], emoji),
   (["epres", "emojipresentation"], .ofRuns emojiPresentation),
   (["ext", "extender"], .ofRuns extender),
   (["extpict", "extendedpictographic"], .ofRuns extendedPictographic),
   (["grbase", "graphemebase"], graphemeBase),
   (["grext", "graphemeextend"], graphemeExtend),
   (["grlink", "graphemelink"], .ofRuns conjoiner),
   (["hex", "hexdigit"], .ofRuns hexDigit),
   (["hyphen"], .ofRuns hyphen),
   (["idc", "idcontinue"], idContinue),
   (["idcompatmathcontinue"], mathContinue),
   (["idcompatmathstart"], .ofRuns mathStart),
   (["ideo", "ideographic"], ideographic),
   (["ids", "idstart"], idStart),
   (["idsb", "idsbinaryoperator"], binaryDescription),
   (["idst", "idstrinaryoperator"], ternaryDescription),
   (["idsu", "idsunaryoperator"], unaryDescription),
   (["joinc", "joincontrol"], CharClass.joinControl),
   (["loe", "logicalorderexception"], .ofRuns visuallyFirst),
   (["lower", "lowercase"], lowercase),
   (["math"], math),
   (["mcm", "modifiercombiningmark"], .ofRuns modifierCombiningMark),
   (["nchar", "noncharactercodepoint"], noncharacter),
   (["oalpha", "otheralphabetic"], otherAlphabetic),
   (["odi", "otherdefaultignorablecodepoint"], .ofRuns otherIgnorable),
   (["ogrext", "othergraphemeextend"], .ofRuns CharClass.graphemeExtender),
   (["oidc", "otheridcontinue"], .ofRuns otherIdContinue),
   (["oids", "otheridstart"], .ofRuns otherIdStart),
   (["olower", "otherlowercase"], .ofRuns otherLowercase),
   (["omath", "othermath"], .meet Category.assigned (.ofRuns otherMath)),
   (["oupper", "otheruppercase"], .ofRuns otherUppercase),
   (["patsyn", "patternsyntax"], .ofRuns patternSyntax),
   (["patws", "patternwhitespace"], .ofRuns patternSpace),
   (["pcm", "prependedconcatenationmark"], .ofRuns prependedMark),
   (["qmark", "quotationmark"], .ofRuns quotationMark),
   (["radical"], .ofRuns radical),
   (["ri", "regionalindicator"], regionalIndicator),
   (["sd", "softdotted"], .ofRuns softDotted),
   (["sterm", "sentenceterminal"], .ofRuns sentenceTerminal),
   (["term", "terminalpunctuation"], terminalPunctuation),
   (["uideo", "unifiedideograph"], .ofRuns unifiedIdeograph),
   (["upper", "uppercase"], uppercase),
   (["vs", "variationselector"], .ofRuns variationSelector),
   (["wspace", "whitespace", "space"], CharClass.space),
   (["xidc", "xidcontinue"], xidContinue),
   (["xids", "xidstart"], xidStart)]

/-- The properties that have values, with the set of each value. -/
def valued : List (List String × (String -> Option CharSet)) :=
  [(["gc", "generalcategory"], CharSet.called? Category.named),
   (["sc", "script"], Script.named?),
   (["scx", "scriptextensions"], Script.extended?),
   (["age"], Age.named?),
   (["gcb", "graphemeclusterbreak"], Segment.grapheme?),
   (["wb", "wordbreak"], Segment.word?),
   (["sb", "sentencebreak"], Segment.sentence?)]

/-- The letters of a name that tell it from others: no spaces, hyphens and underscores. -/
def tellingLetters (name : List Char) : String :=
  String.ofList (name.filter fun letter =>
    letter.toNat < 128 && letter != ' ' && letter != '_' && letter != '-')

/-- A name without case, spaces, hyphens and underscores, and without a leading `is`.  Only
`isc` keeps it: that is the name of another property, which holds comments. -/
def plainName (name : List Char) : String :=
  match name.map Char.toLower with
  | 'i' :: 's' :: rest =>
      if tellingLetters rest == "c" then "isc" else tellingLetters rest
  | lower => tellingLetters lower

/-- The set that a name calls by itself. -/
def named? (name : List Char) : Option CharSet :=
  let plain := plainName name
  (CharSet.called? named plain).or
    ((CharSet.called? Category.named plain).or (Script.named? plain))

/-- The set that a value of a property calls. -/
def valued? (name value : List Char) : Option CharSet :=
  (valued.find? fun entry => entry.1.contains (plainName name)).bind fun entry =>
    entry.2 (plainName value)

end Property
end Text
end ItemModels
