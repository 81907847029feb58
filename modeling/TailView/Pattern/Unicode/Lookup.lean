import TailView.Pattern.CharSet
import TailView.Pattern.Tree
import TailView.Pattern.Unicode.Category
import TailView.Pattern.Unicode.Property
import TailView.Pattern.Unicode.Script
import TailView.Pattern.Unicode.ScriptExtension

/-!
# Looking up properties of characters

A property is asked for by a name alone, which is tried as a binary property, a general category
and a script in this order, or by a name and a value.  Case, blanks, hyphens and underscores of a
name do not count, nor does `is` at its start.
-/

namespace TailView
namespace Pattern
namespace Unicode

/-- The characters that do not count in a name. -/
def isFiller (c : Char) : Bool := c = ' ' || c = '_' || c = '-' || c.toNat ≥ 128

/-- The name without `is` at its start; the abbreviation of `ISO_Comment` keeps it, so that it is
not taken for a category. -/
def normalName (name : String) : String :=
  let normal (cs : List Char) := (cs.filter fun c => !isFiller c).map Char.toLower
  match name.toList with
  | 'i' :: 's' :: rest | 'I' :: 's' :: rest | 'i' :: 'S' :: rest | 'I' :: 'S' :: rest =>
      if normal rest = ['c'] then "isc" else String.ofList (normal rest)
  | cs => String.ofList (normal cs)

/-- The general categories that unite others: their names and what they unite. -/
def categoryUnions : List (List String × List String) := [
  (["lc", "casedletter"], ["lu", "ll", "lt"]),
  (["l", "letter"], ["lu", "ll", "lt", "lm", "lo"]),
  (["m", "mark", "combiningmark"], ["mn", "mc", "me"]),
  (["n", "number"], ["nd", "nl", "no"]),
  (["p", "punctuation", "punct"], ["pc", "pd", "ps", "pe", "pi", "pf", "po"]),
  (["s", "symbol"], ["sm", "sc", "sk", "so"]),
  (["z", "separator"], ["zs", "zl", "zp"]),
  (["c", "other"], ["cc", "cf", "cn", "co"])]

/-- The set with a name in a list of tables. -/
def tableSet? (sets : List NamedRanges) (name : String) : Option CharSet :=
  (NamedRanges.find? sets name).map .table

/-- The characters of a general category. -/
def category? (name : String) : Option CharSet :=
  match name with
  | "any" => some .all
  | "ascii" => some (.range 0 0x7F)
  | "assigned" => (tableSet? categories "cn").map .compl
  | _ =>
      match categoryUnions.find? fun entry => entry.1.contains name with
      | some (_, parts) => some (.unionAll (parts.filterMap (tableSet? categories)))
      | none => tableSet? categories name

/-- The characters with a binary property.  Three abbreviations mean general categories. -/
def property? (name : String) : Option CharSet :=
  if ["cf", "sc", "lc"].contains name then none else tableSet? properties name

/-- The characters that a query asks for. -/
def lookUp (query : Query) : Option CharSet :=
  match query with
  | .named name =>
      let name := normalName name
      (property? name).or ((category? name).or (tableSet? scripts name))
  | .valued name value =>
      let value := normalName value
      match normalName name with
      | "gc" | "generalcategory" => category? value
      | "sc" | "script" => tableSet? scripts value
      | "scx" | "scriptextensions" => tableSet? scriptExtensions value
      | _ => none

end Unicode
end Pattern
end TailView
