import TypedStyle.Catalog.Basic
import TypedStyle.Proofs.Catalog.Routes
import TypedStyle.Proofs.Grammar.Tokens
import TypedStyle.Proofs.Spec.Normal
import TypedStyle.Spec.Normal
/-!
# The spec of a catalog is normal

Keywords are found in a grammar in the form that normalizing gives them, and the entries of a
catalog come in the order of their names.  So where the names of a catalog are in lower case and
have no underscores, normalizing its spec only leaves out the properties that are not admitted.

* `isNormalKeyword_of_mem_keywords` — the keywords of every grammar are normal;
* `normalize_of_mem_toSpec` — so are the properties of the catalog;
* `normalize_toSpec` — the normal form of the spec of a catalog.
-/

namespace TypedStyle

namespace Grammar

variable {dictionary : Dictionary} {grammar keyword : Text}

/-- Nothing at all is no keyword. -/
theorem ne_nil_of_mem_keywords (h : keyword ∈ keywords dictionary grammar) : keyword ≠ [] := by
  obtain ⟨token, -, htoken, rfl⟩ := mem_keywords.mp h
  intro hnil
  rw [isKeyword, hnil] at htoken
  contradiction

/-- **The keywords of a grammar are normal**, whatever the grammar is: their characters are small
letters, digits and hyphens, none of which is blank or has another lower case. -/
theorem isNormalKeyword_of_mem_keywords (h : keyword ∈ keywords dictionary grammar) :
    Property.IsNormalKeyword keyword := by
  have hchars : ∀ c ∈ keyword, Text.isBlank c = false ∧ Text.IsSmall c := fun c hc =>
    Naming.forall_isKebabChar (p := fun c => Text.isBlank c = false ∧ Text.IsSmall c)
      (by decide +kernel) (isKebabChar_of_mem_keywords h c hc)
  refine ⟨ne_nil_of_mem_keywords h, ⟨?_, ?_⟩, fun c hc => (hchars c hc).2⟩
  · exact fun c hc => (hchars c (List.mem_of_mem_head? hc)).1
  · exact fun c hc => (hchars c (List.mem_of_getLast? hc)).1

end Grammar

namespace Catalog

variable {catalog : Catalog} {property : Property}

/-- A property of the catalog's spec has one of the names that are not prefixed. -/
theorem name_mem_plainNames (h : property ∈ catalog.toSpec.properties) :
    property.name ∈ catalog.plainNames := by
  obtain ⟨name, entry, hentry, hplain, rfl⟩ := mem_toSpec.mp h
  refine List.mem_filter.mpr ⟨?_, by simp [propertyOf, hplain]⟩
  exact List.mem_map.mpr ⟨(name, entry),
    (catalog.properties.mem_entries_iff_get? name entry).mpr hentry, rfl⟩

/-- A property of the catalog's spec has the keywords of its grammar. -/
theorem keywords_of_mem_toSpec (h : property ∈ catalog.toSpec.properties) :
    property.keywords = Grammar.keywords catalog.grammars property.grammar := by
  obtain ⟨name, entry, -, -, rfl⟩ := mem_toSpec.mp h
  rfl

/-- A name in lower case that has no underscore is normal. -/
theorem normalName_of_lower {name : Text} (hlower : Text.lower name = name)
    (hunderscore : '_' ∉ name) : Property.normalName name = name := by
  have hkept : ∀ c ∈ name, (if c = '_' then '-' else c) = c := by
    intro c hc
    refine if_neg ?_
    rintro rfl
    exact hunderscore hc
  rw [Property.normalName, hlower, List.map_congr_left hkept, List.map_id']

/-- **A property with a normal name is normal** in the spec of a catalog. -/
theorem normalize_of_mem_toSpec (h : property ∈ catalog.toSpec.properties)
    (hname : Property.normalName property.name = property.name) :
    property.normalize = property := by
  have hkeywords : Property.normalKeywords property.keywords = property.keywords := by
    rw [keywords_of_mem_toSpec h]
    exact Property.normalKeywords_eq_self (Grammar.keywords_pairwise _ _)
      fun _ hkeyword => Grammar.isNormalKeyword_of_mem_keywords hkeyword
  rw [Property.normalize, hname, hkeywords]

/-- **Normalizing the spec of a catalog only leaves out what is not admitted.**  Let the names that
are not prefixed be in lower case and without underscores; grammars, statuses and the dictionary may
be any.  Then every property that is admitted stays at its place as it is, the names ascend, and
each property has exactly the keywords of the grammar that its entry in the catalog gives. -/
theorem normalize_toSpec (catalog : Catalog) (policy : Policy)
    (h : ∀ name ∈ catalog.plainNames, Text.lower name = name ∧ '_' ∉ name) :
    catalog.toSpec.normalize policy =
      ⟨catalog.toSpec.version, catalog.toSpec.properties.filter fun p => policy.admits p.status⟩ ∧
    ((catalog.toSpec.normalize policy).properties.Pairwise fun a b => a.name < b.name) ∧
    ∀ property ∈ (catalog.toSpec.normalize policy).properties,
      ∃ entry, catalog.properties.get? property.name = some entry ∧
        property.grammar = entry.grammar ∧
        property.keywords = Grammar.keywords catalog.grammars entry.grammar := by
  have hnormal : ∀ property ∈ catalog.toSpec.properties, property.normalize = property := by
    intro property hproperty
    obtain ⟨hlower, hunderscore⟩ := h _ (name_mem_plainNames hproperty)
    exact normalize_of_mem_toSpec hproperty (normalName_of_lower hlower hunderscore)
  have hascending : (catalog.toSpec.properties.filter fun p => policy.admits p.status).Pairwise
      fun a b => a.name < b.name := catalog.toSpec_names_pairwise.filter _
  have hsorted := Spec.sortByName_eq_self (hascending.imp List.lt_asymm)
  have hsame : catalog.toSpec.normalize policy =
      ⟨catalog.toSpec.version,
        catalog.toSpec.properties.filter fun p => policy.admits p.status⟩ := by
    rw [Spec.normalize_eq, Spec.admitted_of_normal hnormal, hsorted]
  rw [hsame]
  refine ⟨rfl, hascending, fun property hproperty => ?_⟩
  obtain ⟨name, entry, hentry, -, rfl⟩ := mem_toSpec.mp (List.mem_filter.mp hproperty).1
  exact ⟨entry, hentry, rfl, rfl⟩

/-- A catalog with a prefixed name, an experimental property, and grammars that hold anything. -/
def untidyGrammars : Catalog where
  properties := Table.ofList
    [("--Ä_x", ⟨"a", "standard", Table.empty⟩),
     ("color", ⟨"ZZ | <Ref> || b1--c\n100% | red|red", "odd", Table.empty⟩),
     ("é zoom", ⟨"reset | normal | <ref>", "experimental", Table.empty⟩)]
  grammars := Table.ofList [("ref", "\u2028 auto <ref> self")]

/-- Normalizing its spec leaves out the experimental property, and changes nothing else. -/
theorem normalize_untidyGrammars :
    (∀ name ∈ untidyGrammars.plainNames, Text.lower name = name ∧ '_' ∉ name) ∧
    untidyGrammars.toSpec.normalize ⟨false, true⟩ =
      ⟨"mdn-latest", untidyGrammars.toSpec.properties.take 1⟩ ∧
    ((untidyGrammars.toSpec.normalize ⟨false, true⟩).properties.Pairwise fun a b =>
      a.name < b.name) ∧
    ∀ property ∈ (untidyGrammars.toSpec.normalize ⟨false, true⟩).properties,
      ∃ entry, untidyGrammars.properties.get? property.name = some entry ∧
        property.grammar = entry.grammar ∧
        property.keywords = Grammar.keywords untidyGrammars.grammars entry.grammar := by
  have hnames : ∀ name ∈ untidyGrammars.plainNames, Text.lower name = name ∧ '_' ∉ name := by
    decide
  obtain ⟨hsame, hascending, hkeywords⟩ := normalize_toSpec untidyGrammars ⟨false, true⟩ hnames
  refine ⟨hnames, ?_, hascending, hkeywords⟩
  rw [hsame]
  decide +kernel

end Catalog

end TypedStyle
