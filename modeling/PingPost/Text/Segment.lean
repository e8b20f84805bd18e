import PingPost.Text.Property

/-!
Classes of characters at the boundaries of text: of user-perceived characters, of words and of
sentences. A class has a short and a long name; what belongs to no class has none.
-/

namespace PingPost.Text

/-- A class of characters: its names, and how it is made up. -/
structure SegmentClass where
  names : List String
  rule : PropertyRule
  deriving Repr

namespace SegmentClass

open PropertyRule

/-- What continues a character. -/
def extension : PropertyRule := .diff (.union graphemeExtend emojiModifier) joiner
where
  /-- The zero width joiner. -/
  joiner : PropertyRule := .written "200D"

/-- What continues a word or a sentence. -/
def wordExtension : PropertyRule :=
  .diff (.union (.categories [.spacingMark]) (.union graphemeExtend emojiModifier)) extension.joiner

/-- Syllables of two parts. -/
def twoPartSyllable : PropertyRule := .written "AC00-D788/1C"

/-- Classes at the boundaries of user-perceived characters. -/
def graphemeClasses : List SegmentClass := [
  ⟨["cr"], .written "D"⟩,
  ⟨["lf"], .written "A"⟩,
  ⟨["cn", "control"],
    .diff (.union (.categories [.lineSeparator, .paragraphSeparator, .control, .format])
        (.written "2065 FFF0-FFF8 E0000 E0002-E001F E0080-E00FF E01F0-E0FFF"))
      (.union (.written "A D 200C-200D") (.union prependedMark extension))⟩,
  ⟨["ex", "extend"], extension⟩,
  ⟨["zwj"], extension.joiner⟩,
  ⟨["ri", "regionalindicator"], regionalIndicator⟩,
  ⟨["pp", "prepend"],
    .union prependedMark
      (.written "D4E 111C2-111C3 113D1 1193F 11941 11A3A 11A84-11A89 11D46 11F02")⟩,
  ⟨["sm", "spacingmark"],
    .diff (.union (.categories [.spacingMark]) (.written "E33 EB3"))
      (.union extension (.written "102B-102C 1038 1062-1064 1067-106D 1083 1087-108C 108F 109A-109C
        1A61 1A63-1A64 AA7B AA7D 11720-11721"))⟩,
  ⟨["l"], .written "1100-115F A960-A97C"⟩,
  ⟨["v"], .written "1160-11A7 D7B0-D7C6 16D63 16D67-16D6A"⟩,
  ⟨["t"], .written "11A8-11FF D7CB-D7FB"⟩,
  ⟨["lv"], twoPartSyllable⟩,
  ⟨["lvt"], .diff (.written "AC00-D7A3") twoPartSyllable⟩]

/-- Numbers in words. -/
def numeric : PropertyRule :=
  .union (.categories [.decimalNumber]) (.written "600-605 66B 6DD 890-891 8E2 110BD 110CD")

/-- Katakana in words. -/
def katakana : PropertyRule :=
  .written "3031-3035 309B-309C 30A0-30FA 30FC-30FF 31F0-31FF 32D0-32FE 3300-3357 FF66-FF9D
    1AFF0-1AFF3 1AFF5-1AFFB 1AFFD-1AFFE 1B000 1B120-1B122 1B155 1B164-1B167"

/-- Hebrew letters. -/
def hebrewLetter : PropertyRule :=
  .written "5D0-5EA 5EF-5F2 FB1D FB1F-FB28 FB2A-FB36 FB38-FB3C FB3E FB40-FB41 FB43-FB44 FB46-FB4F"

/-- Hiragana. -/
def hiragana : PropertyRule :=
  .written "3041-3096 309D-309F 1B001-1B11F 1B132 1B150-1B152 1F200"

/-- Letters of scripts that write words without blanks between. -/
def unspacedLetter : PropertyRule :=
  .written "E01-E3A E40-E4E E81-E82 E84 E86-E8A E8C-EA3 EA5 EA7-EBD EC0-EC4 EC6 EC8-ECE EDC-EDF
    1000-103F 1050-108F 109A-109F 1780-17D3 17D7 17DC-17DD 1950-196D 1970-1974 1980-19AB 19B0-19C9
    19DA 19DE-19DF 1A20-1A5E 1A60-1A7C 1AA0-1AAD A9E0-A9EF A9FA-A9FE AA60-AAC2 AADB-AADF
    11700-1171A 1171D-1172B 1173A-1173B 1173F-11746"

/-- Letters in words. -/
def wordLetter : PropertyRule :=
  .diff (.union alphabetic (.written "2C2-2C5 2D2-2D7 2DE-2DF 2E5-2EB 2ED 2EF-2FF 55A-55C 55E 58A
      5F3 70F A708-A716 A720-A721 A789-A78A AB5B"))
    (.union (.union ideographic (.union katakana hiragana))
      (.union unspacedLetter (.union wordExtension hebrewLetter)))

/-- Classes at the boundaries of words. -/
def wordClasses : List SegmentClass := [
  ⟨["cr"], .written "D"⟩,
  ⟨["lf"], .written "A"⟩,
  ⟨["nl", "newline"], .written "B-C 85 2028-2029"⟩,
  ⟨["extend"], wordExtension⟩,
  ⟨["zwj"], extension.joiner⟩,
  ⟨["ri", "regionalindicator"], regionalIndicator⟩,
  ⟨["fo", "format"],
    .diff (.categories [.format])
      (.union (.written "70F 200B-200D") (.union wordExtension numeric))⟩,
  ⟨["ka", "katakana"], katakana⟩,
  ⟨["hl", "hebrewletter"], hebrewLetter⟩,
  ⟨["le", "aletter"], wordLetter⟩,
  ⟨["sq", "singlequote"], .written "27"⟩,
  ⟨["dq", "doublequote"], .written "22"⟩,
  ⟨["mb", "midnumlet"], .written "2E 2018-2019 2024 FE52 FF07 FF0E"⟩,
  ⟨["ml", "midletter"], .written "3A B7 387 55F 5F4 2027 FE13 FE55 FF1A"⟩,
  ⟨["mn", "midnum"],
    .written "2C 3B 37E 589 60C-60D 66C 7F8 2044 FE10 FE14 FE50 FE54 FF0C FF1B"⟩,
  ⟨["nu", "numeric"], numeric⟩,
  ⟨["ex", "extendnumlet"], .written "5F 202F 203F-2040 2054 FE33-FE34 FE4D-FE4F FF3F"⟩,
  ⟨["wsegspace"], .written "20 1680 2000-2006 2008-200A 205F 3000"⟩]

/-- Small letters in sentences. -/
def sentenceLower : PropertyRule :=
  .diff lowercase (.union graphemeExtend (.written "10D0-10FA 10FD-10FF"))

/-- Capital letters in sentences. -/
def sentenceUpper : PropertyRule :=
  .diff (.union (.categories [.titleLetter]) uppercase) (.written "1C90-1CBA 1CBD-1CBF")

/-- Points that may end a sentence. -/
def fullStop : PropertyRule := .written "2E 2024 FE52 FF0E"

/-- Signs that end a sentence. -/
def sentenceEnd : PropertyRule := .diff sentenceTerminal fullStop

/-- Classes at the boundaries of sentences. -/
def sentenceClasses : List SegmentClass := [
  ⟨["cr"], .written "D"⟩,
  ⟨["lf"], .written "A"⟩,
  ⟨["se", "sep"], .written "85 2028-2029"⟩,
  ⟨["ex", "extend"], .union wordExtension extension.joiner⟩,
  ⟨["fo", "format"],
    .diff (.categories [.format]) (.union (.written "200C-200D") (.union wordExtension numeric))⟩,
  ⟨["sp"], .written "9 B-C 20 A0 1680 2000-200A 202F 205F 3000"⟩,
  ⟨["lo", "lower"], sentenceLower⟩,
  ⟨["up", "upper"], sentenceUpper⟩,
  ⟨["le", "oletter"],
    .diff (.union alphabetic (.written "5F3"))
      (.union wordExtension (.union sentenceLower sentenceUpper))⟩,
  ⟨["nu", "numeric"], .union numeric (.written "66C")⟩,
  ⟨["at", "aterm"], fullStop⟩,
  ⟨["sc", "scontinue"],
    .written "2C-2D 3A-3B 37E 55D 60C-60D 7F8 1802 1808 2013-2014 3001 FE10-FE11 FE13-FE14
      FE31-FE32 FE50-FE51 FE54-FE55 FE58 FE63 FF0C-FF0D FF1A-FF1B FF64"⟩,
  ⟨["st", "sterm"], sentenceEnd⟩,
  ⟨["cl", "close"],
    .diff (.union (.categories [.opening, .closing, .initialQuote, .finalQuote])
      (.written "22 27 275B-2760 2E00-2E01 2E06-2E08 2E0B 1F676-1F678")) sentenceEnd⟩]

end SegmentClass

end PingPost.Text
