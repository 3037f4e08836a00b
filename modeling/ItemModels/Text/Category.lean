import ItemModels.Text.Category.Letter
import ItemModels.Text.Category.Mark
import ItemModels.Text.Category.Numeral
import ItemModels.Text.Category.Punctuation
import ItemModels.Text.Category.Symbol
import ItemModels.Text.Category.Invisible

namespace ItemModels
namespace Text
namespace Category

/-!
The general categories as sets, and the names by which a pattern may call them.
Like all names of properties they are spelled here without capitals, spaces, hyphens
and underscores.

Each code point belongs to exactly one of the thirty finest categories.  Twenty
nine of them are tables; the unassigned code points are those in no table.
-/

/-- Letters in upper, lower or title case. -/
def casedLetters : CharSet :=
  .unionAll [.ofRuns uppercaseLetter, .ofRuns lowercaseLetter, .ofRuns titlecaseLetter]

def letters : CharSet :=
  .unionAll [casedLetters, .ofRuns modifierLetter, .ofRuns otherLetter]

def marks : CharSet :=
  .unionAll [.ofRuns nonspacingMark, .ofRuns spacingMark, .ofRuns enclosingMark]

def numerals : CharSet :=
  .unionAll [.ofRuns decimalNumber, .ofRuns letterNumber, .ofRuns otherNumber]

def punctuation : CharSet :=
  .unionAll [.ofRuns connectorPunctuation, .ofRuns dashPunctuation, .ofRuns openPunctuation,
    .ofRuns closePunctuation, .ofRuns initialPunctuation, .ofRuns finalPunctuation,
    .ofRuns otherPunctuation]

def symbols : CharSet :=
  .unionAll [.ofRuns mathSymbol, .ofRuns currencySymbol, .ofRuns modifierSymbol,
    .ofRuns otherSymbol]

def separators : CharSet :=
  .unionAll [.ofRuns spaceSeparator, .ofRuns lineSeparator, .ofRuns paragraphSeparator]

/-- Everything that is a letter, mark, numeral, punctuation, symbol or separator. -/
def visible : CharSet :=
  .unionAll [letters, marks, numerals, punctuation, symbols, separators]

/-- Everything else: controls, formatting, surrogates, private use, unassigned. -/
def others : CharSet := .complement visible

/-- Code points that no other category has. -/
def unassigned : CharSet :=
  .without others
    (.unionAll [.ofRuns control, .ofRuns formatting, .ofRuns surrogate, .ofRuns privateUse])

def assigned : CharSet := .complement unassigned

def any : CharSet := .range 0 0x10FFFF

def ascii : CharSet := .range 0 0x7F

/-- The names of each category.  Surrogates have no name, as no text holds one. -/
def named : List (List String × CharSet) :=
  [(["lu", "uppercaseletter"], .ofRuns uppercaseLetter),
   (["ll", "lowercaseletter"], .ofRuns lowercaseLetter),
   (["lt", "titlecaseletter"], .ofRuns titlecaseLetter),
   (["lc", "casedletter"], casedLetters),
   (["lm", "modifierletter"], .ofRuns modifierLetter),
   (["lo", "otherletter"], .ofRuns otherLetter),
   (["l", "letter"], letters),
   (["mn", "nonspacingmark"], .ofRuns nonspacingMark),
   (["mc", "spacingmark"], .ofRuns spacingMark),
   (["me", "enclosingmark"], .ofRuns enclosingMark),
   (["m", "mark", "combiningmark"], marks),
   (["nd", "decimalnumber", "digit"], .ofRuns decimalNumber),
   (["nl", "letternumber"], .ofRuns letterNumber),
   (["no", "othernumber"], .ofRuns otherNumber),
   (["n", "number"], numerals),
   (["pc", "connectorpunctuation"], .ofRuns connectorPunctuation),
   (["pd", "dashpunctuation"], .ofRuns dashPunctuation),
   (["ps", "openpunctuation"], .ofRuns openPunctuation),
   (["pe", "closepunctuation"], .ofRuns closePunctuation),
   (["pi", "initialpunctuation"], .ofRuns initialPunctuation),
   (["pf", "finalpunctuation"], .ofRuns finalPunctuation),
   (["po", "otherpunctuation"], .ofRuns otherPunctuation),
   (["p", "punctuation", "punct"], punctuation),
   (["sm", "mathsymbol"], .ofRuns mathSymbol),
   (["sc", "currencysymbol"], .ofRuns currencySymbol),
   (["sk", "modifiersymbol"], .ofRuns modifierSymbol),
   (["so", "othersymbol"], .ofRuns otherSymbol),
   (["s", "symbol"], symbols),
   (["zs", "spaceseparator"], .ofRuns spaceSeparator),
   (["zl", "lineseparator"], .ofRuns lineSeparator),
   (["zp", "paragraphseparator"], .ofRuns paragraphSeparator),
   (["z", "separator"], separators),
   (["cc", "control", "cntrl"], .ofRuns control),
   (["cf", "format"], .ofRuns formatting),
   (["co", "privateuse"], .ofRuns privateUse),
   (["cn", "unassigned"], unassigned),
   (["c", "other"], others),
   (["any"], any),
   (["assigned"], assigned),
   (["ascii"], ascii)]

end Category
end Text
end ItemModels
