/-
**Sets of characters by a property.**

A property is named as in `Greek`, `Lu` or `gc=Letter`. Case, blanks, hyphens and underscores in a
name do not count, nor does a leading `is`.

* `CharSet.ofCategories`: the characters of some general categories;
* `CharSet.ofProperty?`: the set that a name stands for.
-/

import DocTable.Regex.CharSet
import DocTable.Text.Category
import DocTable.Text.Script
import DocTable.Text.Split
import DocTable.Text.Usage

namespace DocTable.Regex

/-- A name as it is compared. -/
def normalName (name : List Char) : String :=
  let bare (s : List Char) : List Char :=
    (s.filter fun c => decide (c.toNat < 128) && c ≠ ' ' && c ≠ '_' && c ≠ '-').map Char.toLower
  match name with
  | i :: s :: rest =>
    if i.toLower = 'i' ∧ s.toLower = 's' then
      let rest := bare rest
      String.ofList (if rest = ['c'] then ['i', 's', 'c'] else rest)
    else String.ofList (bare name)
  | name => String.ofList (bare name)

namespace CharSet

/-- The characters of several categories. -/
def ofCategories (categories : List Text.Category) : CharSet :=
  categories.foldr (fun k rest => .union (.listed k.ranges) rest) .nothing

/-- The characters of no category. -/
def unassigned : CharSet := .complement (ofCategories Text.Category.all)

/-- A general category, or a set defined by them, by its normal name. -/
def ofCategoryName? (name : String) : Option CharSet :=
  match name with
  | "any" => some (.complement .nothing)
  | "assigned" => some (.complement unassigned)
  | "ascii" => some ascii
  | "cn" | "unassigned" => some unassigned
  | "c" | "other" => some (.union (ofCategories Text.Category.controls) unassigned)
  | name => (Text.Category.ofName? name).map ofCategories

/-- A script by its normal name. -/
def ofScriptName? (name : String) : Option CharSet :=
  (Text.Script.ofName? name).map fun s => .listed s.ranges

def alphabetic : CharSet :=
  .union (ofCategories (.letterNumber :: Text.Category.letters))
    (.listed Text.otherAlphabeticRanges)

def lowercase : CharSet :=
  .union (ofCategories [.lowercaseLetter]) (.listed Text.otherLowercaseRanges)

def uppercase : CharSet :=
  .union (ofCategories [.uppercaseLetter]) (.listed Text.otherUppercaseRanges)

/-- A property that a character has or lacks, by its normal name. -/
def ofUsageName? (name : String) : Option CharSet :=
  match name with
  | "alphabetic" | "alpha" => some alphabetic
  | "lowercase" | "lower" => some lowercase
  | "uppercase" | "upper" => some uppercase
  | "cased" => some (.union (ofCategories [.titlecaseLetter]) (.union lowercase uppercase))
  | "whitespace" | "space" | "wspace" => some .blank
  | "dash" => some (.union (ofCategories [.dashPunctuation]) (.listed Text.otherDashRanges))
  | "math" => some (.union (ofCategories [.mathSymbol]) (.listed Text.otherMathRanges))
  | "hexdigit" | "hex" => some (.listed Text.hexDigitRanges)
  | "asciihexdigit" | "ahex" => some (.meet ascii (.listed Text.hexDigitRanges))
  | "ideographic" | "ideo" => some (.listed Text.ideographicRanges)
  | "emoji" => some (.listed Text.emojiRanges)
  | "emojipresentation" | "epres" => some (.listed Text.emojiPresentationRanges)
  | "extendedpictographic" | "extpict" => some (.listed Text.pictographicRanges)
  | _ => none

/-- The set of a name that stands alone. -/
def ofPlainName? (name : String) : Option CharSet :=
  (ofUsageName? name).orElse fun _ => (ofCategoryName? name).orElse fun _ => ofScriptName? name

/-- The set of a value of a named property. -/
def ofValueName? (property value : String) : Option CharSet :=
  match property with
  | "gc" | "generalcategory" => ofCategoryName? value
  | "sc" | "script" | "scx" | "scriptextensions" => ofScriptName? value
  | _ => none

/-- What stands before and behind the first of the marks that occurs, the marks tried in turn. -/
def splitAtMark? (name : List Char) : List (List Char) → Option (List Char × List Char)
  | [] => none
  | mark :: marks =>
    match Text.splitOnce? mark name with
    | some parts => some parts
    | none => splitAtMark? name marks

/-- The set that the text behind the announcement of a property stands for. Which mark stands
between a property and its value makes no difference, `!=` included. -/
def ofProperty? (name : List Char) : Option CharSet :=
  match splitAtMark? name [['!', '='], [':'], ['=']] with
  | some (property, value) => ofValueName? (normalName property) (normalName value)
  | none => ofPlainName? (normalName name)

end CharSet

end DocTable.Regex
