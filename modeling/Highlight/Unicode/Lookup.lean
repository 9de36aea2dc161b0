import Highlight.Text.Basic
import Highlight.Unicode.Age
import Highlight.Unicode.Break.Grapheme
import Highlight.Unicode.Break.Sentence
import Highlight.Unicode.Break.Word
import Highlight.Unicode.ScriptExtension

/-!
# Characters by the name of a property

`characters?` finds the set that a name stands for: a property that characters have or have not, a
general category or a script. `charactersWith?` finds the set of a value of a property with many
values, such as the script or the age. Names are compared loosely: case, blanks, hyphens and
underscores do not count, and neither does `is` in front.
-/

namespace Highlight.Unicode

/-- A name reduced to what counts when names are compared. The short name of one property would be
taken for that of a category if `is` were dropped from it, so it stays whole. -/
def looseName (name : Text) : Text :=
  let significant (name : Text) : Text :=
    (name.filter fun c => c.toNat < 128 && c != ' ' && c != '_' && c != '-').map Char.toLower
  match name with
  | i :: s :: rest =>
    if i.toLower = 'i' && s.toLower = 's' then
      if significant rest = ['c'] then ['i', 's', 'c'] else significant rest
    else significant name
  | _ => significant name

/-- The general categories and the sets they form together. -/
def categories : List NamedRanges :=
  open Category in
  [⟨["Any"], [(0, Ranges.maximum)]⟩, ⟨["Assigned"], assigned⟩, ⟨["ASCII"], [(0, 127)]⟩,
   ⟨["Cased_Letter", "LC"], casedLetter⟩, ⟨["Close_Punctuation", "Pe"], closePunctuation⟩,
   ⟨["Connector_Punctuation", "Pc"], connectorPunctuation⟩, ⟨["Control", "Cc", "cntrl"], control⟩,
   ⟨["Currency_Symbol", "Sc"], currencySymbol⟩, ⟨["Dash_Punctuation", "Pd"], dashPunctuation⟩,
   ⟨["Decimal_Number", "Nd", "digit"], decimalNumber⟩, ⟨["Enclosing_Mark", "Me"], enclosingMark⟩,
   ⟨["Final_Punctuation", "Pf"], finalPunctuation⟩, ⟨["Format", "Cf"], format⟩,
   ⟨["Initial_Punctuation", "Pi"], initialPunctuation⟩, ⟨["Letter", "L"], letter⟩,
   ⟨["Letter_Number", "Nl"], letterNumber⟩, ⟨["Line_Separator", "Zl"], lineSeparator⟩,
   ⟨["Lowercase_Letter", "Ll"], lowercaseLetter⟩, ⟨["Mark", "M", "Combining_Mark"], mark⟩,
   ⟨["Math_Symbol", "Sm"], mathSymbol⟩, ⟨["Modifier_Letter", "Lm"], modifierLetter⟩,
   ⟨["Modifier_Symbol", "Sk"], modifierSymbol⟩, ⟨["Nonspacing_Mark", "Mn"], nonspacingMark⟩,
   ⟨["Number", "N"], number⟩, ⟨["Open_Punctuation", "Ps"], openPunctuation⟩,
   ⟨["Other", "C"], other⟩, ⟨["Other_Letter", "Lo"], otherLetter⟩,
   ⟨["Other_Number", "No"], otherNumber⟩, ⟨["Other_Punctuation", "Po"], otherPunctuation⟩,
   ⟨["Other_Symbol", "So"], otherSymbol⟩, ⟨["Paragraph_Separator", "Zp"], paragraphSeparator⟩,
   ⟨["Private_Use", "Co"], privateUse⟩, ⟨["Punctuation", "P", "punct"], punctuation⟩,
   ⟨["Separator", "Z"], separator⟩, ⟨["Space_Separator", "Zs"], spaceSeparator⟩,
   ⟨["Spacing_Mark", "Mc"], spacingMark⟩, ⟨["Symbol", "S"], symbol⟩,
   ⟨["Titlecase_Letter", "Lt"], titlecaseLetter⟩, ⟨["Unassigned", "Cn"], unassigned⟩,
   ⟨["Uppercase_Letter", "Lu"], uppercaseLetter⟩]

/-- Whether a loose name is one of some names. -/
def isNamed (loose : Text) (names : List String) : Bool :=
  names.any fun name => looseName name.toList == loose

/-- The set of a loose name in a list. -/
def named? (loose : Text) (sets : List NamedRanges) : Option Ranges :=
  (sets.find? fun named => isNamed loose named.names).map (·.ranges)

/-- The script of a loose name. Two scripts have a second code. -/
def scriptNamed? (loose : Text) : Option Script :=
  let code := if loose = "qaac".toList then "copt".toList
    else if loose = "qaai".toList then "zinh".toList else loose
  scripts.find? fun script => isNamed code [script.name, script.code]

/-- The code points that the version of a loose name had assigned. -/
def assignedIn? (loose : Text) : Option Ranges :=
  let matching (entry : String × Ranges) : Bool :=
    isNamed loose [entry.1, "v" ++ entry.1.replace "." ""]
  if ages.any matching then
    let earlier := ages.takeWhile fun entry => !matching entry
    some (assignedBy (ages.take (earlier.length + 1)))
  else none

/-- The characters of a property, a general category or a script. -/
def characters? (name : Text) : Option Ranges :=
  let loose := looseName name
  named? loose properties <|> named? loose categories <|> (scriptNamed? loose).map (·.ranges)

/-- The characters with a value of a property. -/
def charactersWith? (property value : Text) : Option Ranges :=
  let loose := looseName value
  let is (names : List String) : Bool := isNamed (looseName property) names
  if is ["General_Category", "gc"] then named? loose categories
  else if is ["Script", "sc"] then (scriptNamed? loose).map (·.ranges)
  else if is ["Script_Extensions", "scx"] then (scriptNamed? loose).map (·.extended)
  else if is ["Age"] then assignedIn? loose
  else if is ["Grapheme_Cluster_Break", "GCB"] then named? loose Break.graphemeClasses
  else if is ["Word_Break", "WB"] then named? loose Break.wordClasses
  else if is ["Sentence_Break", "SB"] then named? loose Break.sentenceClasses
  else none

end Highlight.Unicode
