import PingPost.Text.Script
import PingPost.Text.Age
import PingPost.Text.Segment

/-!
Names of character properties in patterns.

Names are compared without regard to the case of letters, to blanks, hyphens and underscores, and
to a word `is` in front. A name by itself is a property, a general category or a script; a name
with a value asks for the value of one of the properties that have several.
-/

namespace PingPost.Pattern

open Text

/-- A name as it is compared: small letters without blanks, hyphens and underscores, and without
`is` in front. Only the category `c` keeps it, since `isc` is a property of its own. -/
def plainName (name : List Char) : String :=
  let body := match name with
    | i :: s :: rest => if asciiLower i = 'i' ∧ asciiLower s = 's' then rest else name
    | _ => name
  let kept := body.filter fun c => c.toNat < 128 && !(c == ' ' || c == '-' || c == '_')
  let key := String.ofList (kept.map asciiLower)
  if key = "c" ∧ body.length < name.length then "isc" else key

/-- General categories and groups of them by their names. -/
def categoryNames : List (List String × List Category) := [
  (["lu", "uppercaseletter"], [.upperLetter]),
  (["ll", "lowercaseletter"], [.lowerLetter]),
  (["lt", "titlecaseletter"], [.titleLetter]),
  (["lc", "casedletter"], [.upperLetter, .lowerLetter, .titleLetter]),
  (["lm", "modifierletter"], [.modifierLetter]),
  (["lo", "otherletter"], [.otherLetter]),
  (["l", "letter"], [.upperLetter, .lowerLetter, .titleLetter, .modifierLetter, .otherLetter]),
  (["mn", "nonspacingmark"], [.nonspacingMark]),
  (["mc", "spacingmark"], [.spacingMark]),
  (["me", "enclosingmark"], [.enclosingMark]),
  (["m", "mark", "combiningmark"], [.nonspacingMark, .spacingMark, .enclosingMark]),
  (["nd", "decimalnumber", "digit"], [.decimalNumber]),
  (["nl", "letternumber"], [.letterNumber]),
  (["no", "othernumber"], [.otherNumber]),
  (["n", "number"], [.decimalNumber, .letterNumber, .otherNumber]),
  (["pc", "connectorpunctuation"], [.connector]),
  (["pd", "dashpunctuation"], [.dash]),
  (["ps", "openpunctuation"], [.opening]),
  (["pe", "closepunctuation"], [.closing]),
  (["pi", "initialpunctuation"], [.initialQuote]),
  (["pf", "finalpunctuation"], [.finalQuote]),
  (["po", "otherpunctuation"], [.otherPunctuation]),
  (["p", "punctuation", "punct"],
    [.connector, .dash, .opening, .closing, .initialQuote, .finalQuote, .otherPunctuation]),
  (["sm", "mathsymbol"], [.mathSymbol]),
  (["sc", "currencysymbol"], [.currency]),
  (["sk", "modifiersymbol"], [.modifierSymbol]),
  (["so", "othersymbol"], [.otherSymbol]),
  (["s", "symbol"], [.mathSymbol, .currency, .modifierSymbol, .otherSymbol]),
  (["zs", "spaceseparator"], [.space]),
  (["zl", "lineseparator"], [.lineSeparator]),
  (["zp", "paragraphseparator"], [.paragraphSeparator]),
  (["z", "separator"], [.space, .lineSeparator, .paragraphSeparator]),
  (["cc", "control", "cntrl"], [.control]),
  (["cf", "format"], [.format]),
  (["co", "privateuse"], [.privateUse]),
  (["cn", "unassigned"], [.unassigned]),
  (["c", "other"], [.control, .format, .privateUse, .unassigned])]

/-- Properties that hold or do not hold, by their names. -/
def propertyNames : List (List String × PropertyRule) := [
  (["ahex", "asciihexdigit"], .asciiHexDigit),
  (["alpha", "alphabetic"], .alphabetic),
  (["bidic", "bidicontrol"], .bidiControl),
  (["bidim", "bidimirrored"], .bidiMirrored),
  (["ci", "caseignorable"], .caseIgnorable),
  (["cased"], .cased),
  (["cwcf", "changeswhencasefolded"], .changesWhenCasefolded),
  (["cwcm", "changeswhencasemapped"], .changesWhenCasemapped),
  (["cwl", "changeswhenlowercased"], .changesWhenLowercased),
  (["cwt", "changeswhentitlecased"], .changesWhenTitlecased),
  (["cwu", "changeswhenuppercased"], .changesWhenUppercased),
  (["dash"], .dash),
  (["dep", "deprecated"], .deprecatedCharacter),
  (["di", "defaultignorablecodepoint"], .defaultIgnorable),
  (["dia", "diacritic"], .diacritic),
  (["emoji"], .emoji),
  (["ecomp", "emojicomponent"], .emojiComponent),
  (["emod", "emojimodifier"], .emojiModifier),
  (["ebase", "emojimodifierbase"], .emojiModifierBase),
  (["epres", "emojipresentation"], .emojiPresentation),
  (["ext", "extender"], .extender),
  (["extpict", "extendedpictographic"], .extendedPictographic),
  (["grbase", "graphemebase"], .graphemeBase),
  (["grext", "graphemeextend"], .graphemeExtend),
  (["grlink", "graphemelink"], .graphemeLink),
  (["hex", "hexdigit"], .hexDigit),
  (["hyphen"], .hyphen),
  (["idcompatmathcontinue"], .mathNameContinue),
  (["idcompatmathstart"], .mathNameStart),
  (["idc", "idcontinue"], .idContinue),
  (["ids", "idstart"], .idStart),
  (["ideo", "ideographic"], .ideographic),
  (["idsb", "idsbinaryoperator"], .idsBinaryOperator),
  (["idst", "idstrinaryoperator"], .idsTrinaryOperator),
  (["idsu", "idsunaryoperator"], .idsUnaryOperator),
  (["joinc", "joincontrol"], .joinControl),
  (["loe", "logicalorderexception"], .logicalOrderException),
  (["lower", "lowercase"], .lowercase),
  (["math"], .math),
  (["mcm", "modifiercombiningmark"], .modifierCombiningMark),
  (["nchar", "noncharactercodepoint"], .noncharacter),
  (["oalpha", "otheralphabetic"], .otherAlphabetic),
  (["odi", "otherdefaultignorablecodepoint"], .otherDefaultIgnorable),
  (["ogrext", "othergraphemeextend"], .otherGraphemeExtend),
  (["oidc", "otheridcontinue"], .otherIdContinue),
  (["oids", "otheridstart"], .otherIdStart),
  (["olower", "otherlowercase"], .otherLowercase),
  (["omath", "othermath"], .otherMath),
  (["oupper", "otheruppercase"], .otherUppercase),
  (["patsyn", "patternsyntax"], .patternSyntax),
  (["patws", "patternwhitespace"], .patternWhiteSpace),
  (["pcm", "prependedconcatenationmark"], .prependedMark),
  (["qmark", "quotationmark"], .quotationMark),
  (["radical"], .radical),
  (["ri", "regionalindicator"], .regionalIndicator),
  (["sd", "softdotted"], .softDotted),
  (["sterm", "sentenceterminal"], .sentenceTerminal),
  (["term", "terminalpunctuation"], .terminalPunctuation),
  (["uideo", "unifiedideograph"], .unifiedIdeograph),
  (["upper", "uppercase"], .uppercase),
  (["vs", "variationselector"], .variationSelector),
  (["wspace", "whitespace", "space"], .whiteSpace),
  (["xidc", "xidcontinue"], .xidContinue),
  (["xids", "xidstart"], .xidStart)]

/-- The entry of a table that lists a name. -/
def named? {α : Type} (key : String) (table : List (List String × α)) : Option α :=
  (table.find? fun e => e.1.contains key).map (·.2)

/-- The characters of a general category. -/
def category? (key : String) : Option CharSet :=
  match key with
  | "any" => some .all
  | "ascii" => some (.range 0 127)
  | "assigned" => some Category.unassigned.set.compl
  | _ => (named? key categoryNames).map fun ks => .unions (ks.map Category.set)

/-- The script with a name. -/
def script? (key : String) : Option Script :=
  let key := match key with
    | "qaac" => "copt"
    | "qaai" => "zinh"
    | key => key
  scripts.find? fun s => plainName s.code.toList == key || plainName s.name.toList == key

/-- The characters of a property, a category or a script. -/
def property? (key : String) : Option CharSet :=
  match named? key propertyNames with
  | some rule => some rule.set
  | none => (category? key).or ((script? key).map Script.set)

/-- The characters of a class at boundaries of text. -/
def segment? (key : String) (classes : List SegmentClass) : Option CharSet :=
  (classes.find? (·.names.contains key)).map (·.rule.set)

/-- The version that a value of the age names: with a point, or with a letter and an underscore. -/
def version (key : String) : String :=
  match key.toList with
  | 'v' :: ds => String.ofList (ds.dropLast ++ '.' :: ds.drop (ds.length - 1))
  | _ => key

/-- The characters for which a property has a value. -/
def propertyValue? (property value : String) : Option CharSet :=
  match property with
  | "gc" | "generalcategory" => category? value
  | "sc" | "script" => (script? value).map Script.set
  | "scx" | "scriptextensions" => (script? value).map Script.extendedSet
  | "age" => age? (version value)
  | "gcb" | "graphemeclusterbreak" => segment? value SegmentClass.graphemeClasses
  | "wb" | "wordbreak" => segment? value SegmentClass.wordClasses
  | "sb" | "sentencebreak" => segment? value SegmentClass.sentenceClasses
  | _ => none

end PingPost.Pattern
