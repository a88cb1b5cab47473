import TreePattern.Text.Break
import TreePattern.Text.Cut
import TreePattern.Text.Edition
import TreePattern.Text.Property
import TreePattern.Text.SharedScript

namespace TreePattern.Regex.Property

def categories : List (List String × CharSet) :=
  [(["any"], .full), (["ascii"], .range 0 0x7f), (["assigned"], Category.assigned),
    (["l", "letter"], Category.sets Category.letters),
    (["lc", "casedletter"], Category.sets [.uppercaseLetter, .lowercaseLetter, .titlecaseLetter]),
    (["lu", "uppercaseletter"], Category.uppercaseLetter.set),
    (["ll", "lowercaseletter"], Category.lowercaseLetter.set),
    (["lt", "titlecaseletter"], Category.titlecaseLetter.set),
    (["lm", "modifierletter"], Category.modifierLetter.set),
    (["lo", "otherletter"], Category.otherLetter.set),
    (["m", "mark", "combiningmark"], Category.sets Category.marks),
    (["mn", "nonspacingmark"], Category.nonspacingMark.set),
    (["mc", "spacingmark"], Category.spacingMark.set),
    (["me", "enclosingmark"], Category.enclosingMark.set),
    (["n", "number"], Category.sets Category.numbers),
    (["nd", "decimalnumber", "digit"], Category.decimalNumber.set),
    (["nl", "letternumber"], Category.letterNumber.set),
    (["no", "othernumber"], Category.otherNumber.set),
    (["p", "punctuation", "punct"], Category.sets Category.punctuation),
    (["pc", "connectorpunctuation"], Category.connectorPunctuation.set),
    (["pd", "dashpunctuation"], Category.dashPunctuation.set),
    (["ps", "openpunctuation"], Category.openPunctuation.set),
    (["pe", "closepunctuation"], Category.closePunctuation.set),
    (["pi", "initialpunctuation"], Category.initialPunctuation.set),
    (["pf", "finalpunctuation"], Category.finalPunctuation.set),
    (["po", "otherpunctuation"], Category.otherPunctuation.set),
    (["s", "symbol"], Category.sets Category.symbols),
    (["sm", "mathsymbol"], Category.mathSymbol.set),
    (["sc", "currencysymbol"], Category.currencySymbol.set),
    (["sk", "modifiersymbol"], Category.modifierSymbol.set),
    (["so", "othersymbol"], Category.otherSymbol.set),
    (["z", "separator"], Category.sets Category.separators),
    (["zs", "spaceseparator"], Category.spaceSeparator.set),
    (["zl", "lineseparator"], Category.lineSeparator.set),
    (["zp", "paragraphseparator"], Category.paragraphSeparator.set),
    (["c", "other"], (Category.sets Category.others).union Category.unassigned),
    (["cc", "control", "cntrl"], Category.control.set),
    (["cf", "format"], Category.format.set),
    (["cn", "unassigned"], Category.unassigned),
    (["co", "privateuse"], Category.privateUse.set)]

/-- Names are compared without case, spaces, hyphens, underscores and a leading `is`; but `isc` is
a name of its own. -/
def plainName (name : List Char) : String :=
  let plain (cs : List Char) :=
    (cs.filter fun c ↦ c.toNat < 0x80 && c != ' ' && c != '_' && c != '-').map Char.toLower
  match name with
  | i :: s :: rest =>
    if i.toLower = 'i' ∧ s.toLower = 's' then
      if plain rest = ['c'] then "isc" else String.ofList (plain rest)
    else String.ofList (plain name)
  | _ => String.ofList (plain name)

def find? (classes : List (List String × CharSet)) (name : String) : Option CharSet :=
  (classes.find? (·.1.contains name)).map (·.2)

def edition? (name : String) : Option CharSet :=
  let isNamed (number : String) :=
    number = name || String.ofList ('v' :: number.toList.filter (· != '.')) = name
  (CharSet.editions.find? (isNamed ·.1)).bind fun e ↦ CharSet.upToEdition? e.1

/-- Of the names that properties and categories share, `cf`, `sc` and `lc` mean categories. -/
def named? (name : List Char) : Option CharSet :=
  let name := plainName name
  let property := if ["cf", "sc", "lc"].contains name then none else find? CharSet.properties name
  property <|> find? categories name <|> CharSet.script? name

def valued? (name value : List Char) : Option CharSet :=
  let value := plainName value
  match plainName name with
  | "gc" | "generalcategory" => find? categories value
  | "sc" | "script" => CharSet.script? value
  | "scx" | "scriptextensions" => CharSet.usedIn? value
  | "age" => edition? value
  | "gcb" | "graphemeclusterbreak" => find? CharSet.GraphemeBreak.classes value
  | "wb" | "wordbreak" => find? CharSet.WordBreak.classes value
  | "sb" | "sentencebreak" => find? CharSet.SentenceBreak.classes value
  | _ => none

def cutUnequal? : List Char → Option (List Char × List Char)
  | [] => none
  | '!' :: '=' :: value => some ([], value)
  | c :: cs => (cutUnequal? cs).map fun (name, value) ↦ (c :: name, value)

def ofText? (text : List Char) : Option (CharSet × Bool) :=
  match cutUnequal? text, cutFirst? ':' text, cutFirst? '=' text with
  | some (name, value), _, _ => (valued? name value).map ((·, true))
  | none, some (name, value), _ => (valued? name value).map ((·, false))
  | none, none, some (name, value) => (valued? name value).map ((·, false))
  | none, none, none => (named? text).map ((·, false))

end TreePattern.Regex.Property
