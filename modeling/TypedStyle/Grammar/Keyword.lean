import TypedStyle.Grammar.Reference
import TypedStyle.Grammar.Token
import TypedStyle.Text.Utf8
/-!
# Keywords of a value grammar

The keywords of a grammar are the tokens of its expansion that can be values by themselves: words
of the grammar notation, names of data types and single letters are left out.

* `mem_keywords` — a keyword is an accepted token in small letters;
* `keywords_pairwise` — they come in strictly ascending order.
-/

namespace TypedStyle.Grammar

/-- Words that occur in grammars without being values of their own. -/
def stopwords : List Text :=
  List.map Text.ofString
  ["and", "or", "not", "where", "is", "has", "any", "all", "inherit", "initial", "unset",
   "revert", "length", "percentage", "number", "integer", "string", "color", "image", "url",
   "calc", "var", "env", "attr", "global", "values", "keyword", "value", "property"]

/-- Characters of the grammar notation that no keyword contains. -/
def isNotation (c : Char) : Bool :=
  decide (c ∈ ("()[]\x7b\x7d#%<>" : Text))

/-- Is the text a run of digits? -/
def isNumeral (t : Text) : Bool :=
  !t.isEmpty && t.all Char.isDigit

/-- Can the token be a value by itself?  Its case does not matter. -/
def isKeyword (token : Text) : Bool :=
  let word := token.lowerAscii
  (decide (2 ≤ word.byteCount) || isNumeral word) && !word.any isNotation
    && !stopwords.contains word

/-- The keywords of a grammar, given the grammars that its references name. -/
def keywords (dictionary : Dictionary) (grammar : Text) : List Text :=
  Text.ascending (((tokens (expand dictionary grammar)).filter isKeyword).map Text.lowerAscii)

/-- A keyword is a token that is accepted, in small letters. -/
theorem mem_keywords {dictionary : Dictionary} {grammar keyword : Text} :
    keyword ∈ keywords dictionary grammar ↔
      ∃ token ∈ tokens (expand dictionary grammar),
        isKeyword token = true ∧ token.lowerAscii = keyword := by
  simp [keywords, and_assoc]

/-- The keywords are in ascending order, each of them once. -/
theorem keywords_pairwise (dictionary : Dictionary) (grammar : Text) :
    (keywords dictionary grammar).Pairwise (· < ·) :=
  Text.ascending_pairwise _

end TypedStyle.Grammar
