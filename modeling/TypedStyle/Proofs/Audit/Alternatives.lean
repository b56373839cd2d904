import TypedStyle.Proofs.Audit.Update
import TypedStyle.Proofs.Grammar.Alternatives
/-!
# Keywords as the alternatives of a grammar

A list of words can be written as a grammar that has the words as its alternatives.  The keywords of
this grammar are the words again, in ascending order and without repetition, and so the audit has
nothing to say about a property with these keywords.

* `keywords_alternatives` — the words are read off the grammar that is made of them;
* `compare_alternatives` — how a property with the words compares with an entry with the grammar;
* `audit_alternatives` — the same for a property at any place of any spec.
-/

namespace TypedStyle.Catalog

open TypedStyle.Grammar (isAlternative)

variable {words : List Text}

/-- The keywords of words that are alternatives, in ascending order. -/
theorem keywords_alternatives (hwords : ∀ word ∈ words, isAlternative word = true)
    (dictionary : Grammar.Dictionary) :
    Grammar.keywords dictionary (alternatives words) = Text.ascending words := by
  refine Text.eq_of_ascending (Grammar.keywords_pairwise _ _) (Text.ascending_pairwise words)
    fun keyword => ?_
  rw [Text.mem_ascending, alternatives]
  have hseparator : ∀ c ∈ (" | " : Text), Grammar.isSeparator c = true :=
    Text.forall_mem_of_all (by decide)
  exact Grammar.mem_keywords_join (by decide) hseparator hwords

/-- A property with the words as its keywords agrees with an entry that has them as alternatives. -/
theorem compare_alternatives (hwords : ∀ word ∈ words, isAlternative word = true)
    (catalog : Catalog) {property : Property} {entry : Entry}
    (hgrammar : entry.grammar = alternatives words) (hkeywords : property.keywords = words) :
    (catalog.compare property entry).missing = [] ∧
    (catalog.compare property entry).extra = [] ∧
    (catalog.compare property entry).inGrammar = true := by
  have hfound : catalog.keywordsOf entry = Text.ascending words := by
    rw [keywordsOf, hgrammar, keywords_alternatives hwords]
  refine ⟨?_, ?_, ?_⟩
  · show difference (catalog.keywordsOf entry) property.keywords = []
    rw [hfound, hkeywords]
    exact difference_eq_nil fun _ ht => Text.mem_ascending.mp ht
  · show difference property.keywords (catalog.keywordsOf entry) = []
    rw [hfound, hkeywords]
    exact difference_eq_nil fun _ ht => Text.mem_ascending.mpr ht
  · show Text.contains entry.grammar (alternatives property.keywords) = true
    rw [hgrammar, hkeywords]
    exact (Text.contains_iff _ _).mpr List.infix_rfl

/-- **Words survive being written as alternatives.**  Let each of some words be a number, or be made
of two or more small letters and hyphens with a letter at either end, and let none be a stopword.
They may come in any order and more than once.  Then, whatever the dictionary is, the keywords of
the grammar with these words as its alternatives are the words in strictly ascending order.  Hence,
where a catalog has this grammar for a property, the audit of a spec that has the words as the
keywords of the property finds it clean, and finds the keywords in the grammar as alternatives in a
row. -/
theorem audit_alternatives (hwords : ∀ word ∈ words, isAlternative word = true) :
    (∀ dictionary, Grammar.keywords dictionary (alternatives words) = Text.ascending words) ∧
    ∀ (catalog : Catalog) (spec : Spec) (i : Nat) (property : Property) (entry : Entry),
      spec.properties[i]? = some property →
      catalog.properties.get? property.name = some entry →
      entry.grammar = alternatives words →
      property.keywords = words →
      ∃ finding c, (catalog.audit spec)[i]? = some finding ∧ finding.name = property.name ∧
        finding.isClean = true ∧ finding.comparison = some c ∧ c.inGrammar = true := by
  refine ⟨keywords_alternatives hwords, ?_⟩
  intro catalog spec i property entry hproperty hentry hgrammar hkeywords
  obtain ⟨hmissing, hextra, hin⟩ := compare_alternatives hwords catalog hgrammar hkeywords
  have hcomparison : (catalog.examine property).comparison =
      some (catalog.compare property entry) := by
    rw [examine, hentry, Option.map_some]
  refine ⟨catalog.examine property, catalog.compare property entry, ?_, rfl,
    isClean_of_comparison hcomparison hmissing hextra, hcomparison, hin⟩
  rw [audit, List.getElem?_map, hproperty, Option.map_some]

/-- Words that are neither in order nor without repetition, one with hyphens in a row. -/
def someWords : List Text :=
  List.map Text.ofString ["repeat-x", "100", "no--repeat", "fit", "100", "7"]

/-- A catalog with a property that takes these words. -/
def someWordsCatalog : Catalog where
  properties := Table.ofList [("flow", ⟨alternatives someWords, "standard", Table.empty⟩)]
  grammars := Table.ofList [("fit", "auto")]

/-- The words are read off their grammar, and the second property of a spec is found clean. -/
theorem audit_someWords :
    (∀ word ∈ someWords, isAlternative word = true) ∧
    Grammar.keywords (Table.ofList [("fit", "auto")]) (alternatives someWords) =
      List.map Text.ofString ["100", "7", "fit", "no--repeat", "repeat-x"] ∧
    ∃ finding c,
      (someWordsCatalog.audit ⟨"1", [⟨"zoom", [], "", .standard⟩,
        ⟨"flow", someWords, "none", .deprecated⟩]⟩)[1]? = some finding ∧
      finding.name = Text.ofString "flow" ∧ finding.isClean = true ∧
      finding.comparison = some c ∧ c.inGrammar = true := by
  have hwords : ∀ word ∈ someWords, isAlternative word = true := by decide
  obtain ⟨hread, hclean⟩ := audit_alternatives hwords
  refine ⟨hwords, ?_, ?_⟩
  · rw [hread]
    decide
  · exact hclean someWordsCatalog _ 1 ⟨"flow", someWords, "none", .deprecated⟩
      ⟨alternatives someWords, "standard", Table.empty⟩ rfl (by rfl) rfl rfl

end TypedStyle.Catalog
