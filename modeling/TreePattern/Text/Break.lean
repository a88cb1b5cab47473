import TreePattern.Text.Emoji
import TreePattern.Text.Grapheme
import TreePattern.Text.Ideograph
import TreePattern.Text.Invisible
import TreePattern.Text.Letter
import TreePattern.Text.Punctuation
import TreePattern.Text.Script

namespace TreePattern.CharSet

def carriageReturn : CharSet := single '\r'

def lineFeed : CharSet := single '\n'

def zeroWidthJoiner : CharSet := .ofTable ["200d"]

def numberSigns : CharSet := .ofTable ["600-605 6dd 890-891 8e2 110bd 110cd"]

namespace GraphemeBreak

def control : CharSet :=
  diff (union (Category.sets [.lineSeparator, .paragraphSeparator, .control, .format])
      (inter Category.unassigned defaultIgnorable))
    (unions [carriageReturn, lineFeed, joinControl, prependedConcatenationMark, graphemeExtend])

def extend : CharSet := union graphemeExtend emojiModifier

def leftAlone : CharSet := .ofTable
  ["102b-102c 1038 1062-1064 1067-106d 1083 1087-108c 108f 109a-109c 1a61 1a63-1a64 aa7b aa7d",
   "11720-11721"]

def spacingMark : CharSet :=
  diff (union (diff Category.spacingMark.set extend) (.ofTable ["e33 eb3"])) leftAlone

def prepended : CharSet :=
  union prependedConcatenationMark (.ofTable
    ["d4e 111c2-111c3 113d1 1193f 11941 11a3a 11a84-11a89 11d46 11f02"])

def syllable : CharSet := .ofTable ["ac00-d7a3"]

def openSyllable : CharSet := .ofTable ["ac00-d788/1c"]

def classes : List (List String × CharSet) :=
  [(["cn", "control"], control),
    (["cr"], carriageReturn),
    (["ex", "extend"], extend),
    (["l"], .ofTable ["1100-115f a960-a97c"]),
    (["lf"], lineFeed),
    (["lv"], openSyllable),
    (["lvt"], diff syllable openSyllable),
    (["pp", "prepend"], prepended),
    (["ri", "regionalindicator"], regionalIndicator),
    (["sm", "spacingmark"], spacingMark),
    (["t"], .ofTable ["11a8-11ff d7cb-d7fb"]),
    (["v"], .ofTable ["1160-11a7 d7b0-d7c6 16d63 16d67-16d6a"]),
    (["zwj"], zeroWidthJoiner)]

end GraphemeBreak

namespace WordBreak

def newline : CharSet := .ofTable ["b-c 85 2028-2029"]

def extend : CharSet :=
  diff (unions [graphemeExtend, Category.spacingMark.set, emojiModifier]) zeroWidthJoiner

def format : CharSet :=
  diff Category.format.set
    (unions [.ofTable ["200b"], joinControl, prependedConcatenationMark, graphemeExtend])

def katakana : CharSet :=
  union (script "kana") (.ofTable ["3031-3035 309b-309c 30a0 30fc ff70"])

def hebrewLetter : CharSet := inter (script "hebr") Category.otherLetter.set

def numeric : CharSet := unions [Category.decimalNumber.set, numberSigns, .ofTable ["66b"]]

/-- Letters of scripts that do not part their words. -/
def unparted : CharSet := .ofTable
  ["e01-e30 e32-e33 e40-e46 e81-e82 e84 e86-e8a e8c-ea3 ea5 ea7-eb0 eb2-eb3 ebd ec0-ec4 ec6",
   "edc-edf 1000-102a 103f 1050-1055 105a-105d 1061 1065-1066 106e-1070 1075-1081 108e 1780-17b3",
   "17d7 17dc 1950-196d 1970-1974 1980-19ab 19b0-19c9 1a20-1a54 1aa7 a9e0-a9e4 a9e6-a9ef",
   "a9fa-a9fe aa60-aa76 aa7a aa7e-aaaf aab1 aab5-aab6 aab9-aabd aac0 aac2 aadb-aadd 11700-1171a",
   "11740-11746"]

def otherLetters : CharSet := .ofTable
  ["2c2-2c5 2d2-2d7 2de-2df 2e5-2eb 2ed 2ef-2ff 55a-55c 55e 58a 5f3 70f a708-a716 a720-a721",
   "a789-a78a ab5b"]

def letter : CharSet :=
  diff (union alphabetic otherLetters)
    (unions [ideographic, katakana, unparted, script "hira", extend, hebrewLetter])

def space : CharSet := diff Category.spaceSeparator.set (.ofTable ["a0 2007 202f"])

def classes : List (List String × CharSet) :=
  [(["cr"], carriageReturn),
    (["dq", "doublequote"], single '\x22'),
    (["ex", "extendnumlet"], union Category.connectorPunctuation.set (.ofTable ["202f"])),
    (["extend"], extend),
    (["fo", "format"], format),
    (["hl", "hebrewletter"], hebrewLetter),
    (["ka", "katakana"], katakana),
    (["le", "aletter"], letter),
    (["lf"], lineFeed),
    (["mb", "midnumlet"], .ofTable ["2e 2018-2019 2024 fe52 ff07 ff0e"]),
    (["ml", "midletter"], .ofTable ["3a b7 387 55f 5f4 2027 fe13 fe55 ff1a"]),
    (["mn", "midnum"], .ofTable
      ["2c 3b 37e 589 60c-60d 66c 7f8 2044 fe10 fe14 fe50 fe54 ff0c ff1b"]),
    (["nl", "newline"], newline),
    (["nu", "numeric"], numeric),
    (["ri", "regionalindicator"], regionalIndicator),
    (["sq", "singlequote"], single '\''),
    (["wsegspace"], space),
    (["zwj"], zeroWidthJoiner)]

end WordBreak

namespace SentenceBreak

def separator : CharSet := .ofTable ["85 2028-2029"]

def extend : CharSet := unions [graphemeExtend, Category.spacingMark.set, zeroWidthJoiner]

def format : CharSet :=
  diff Category.format.set (unions [joinControl, numberSigns, graphemeExtend])

def lower : CharSet :=
  diff lowercase (unions [graphemeExtend, .ofTable ["10d0-10fa 10fd-10ff"]])

def upper : CharSet :=
  diff (union Category.titlecaseLetter.set uppercase) (.ofTable ["1c90-1cba 1cbd-1cbf"])

def otherLetter : CharSet :=
  diff (union alphabetic (.ofTable ["5f3"])) (unions [lower, upper, extend])

def period : CharSet := .ofTable ["2e 2024 fe52 ff0e"]

def terminal : CharSet := diff sentenceTerminal period

def close : CharSet :=
  let brackets := Category.sets
    [.openPunctuation, .closePunctuation, .initialPunctuation, .finalPunctuation]
  let quotes := .ofTable ["22 27 275b-2760 2e00-2e01 2e06-2e08 2e0b 1f676-1f678"]
  diff (union brackets quotes) (union period terminal)

def numeric : CharSet := unions [Category.decimalNumber.set, numberSigns, .ofTable ["66b-66c"]]

def space : CharSet := diff whiteSpace (unions [separator, carriageReturn, lineFeed])

def classes : List (List String × CharSet) :=
  [(["at", "aterm"], period),
    (["cl", "close"], close),
    (["cr"], carriageReturn),
    (["ex", "extend"], extend),
    (["fo", "format"], format),
    (["le", "oletter"], otherLetter),
    (["lf"], lineFeed),
    (["lo", "lower"], lower),
    (["nu", "numeric"], numeric),
    (["sc", "scontinue"], .ofTable
      ["2c-2d 3a-3b 37e 55d 60c-60d 7f8 1802 1808 2013-2014 3001 fe10-fe11 fe13-fe14 fe31-fe32",
       "fe50-fe51 fe54-fe55 fe58 fe63 ff0c-ff0d ff1a-ff1b ff64"]),
    (["se", "sep"], separator),
    (["sp"], space),
    (["st", "sterm"], terminal),
    (["up", "upper"], upper)]

end SentenceBreak

end TreePattern.CharSet
