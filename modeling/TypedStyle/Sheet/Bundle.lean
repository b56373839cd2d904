import TypedStyle.Sheet.Vocabulary
/-!
# The bundled properties

A small spec comes with the library, so that the usual properties of boxes, texts and flexible
layouts can be set without a spec of one's own.  Of its properties those in general use count.
-/

namespace TypedStyle.Bundle

/-- A property in general use. -/
def standard (name : String) (keywords : List String) (grammar : String) : Property :=
  ⟨name, keywords.map Text.ofString, grammar, .standard⟩

/-- The spec that comes with the library. -/
def source : Spec where
  version := "2024.1"
  properties :=
    [standard "align-items"
      ["baseline", "center", "flex-end", "flex-start", "normal", "stretch"]
      "normal | stretch | <baseline-position> | [ <overflow-position>? <self-position> ]",
    standard "background-color" [] "<color>",
    standard "background-repeat"
      ["no-repeat", "repeat", "repeat-x", "repeat-y", "round", "space"]
      "<repeat-style>#",
    standard "display"
      ["block", "contents", "flex", "grid", "inline", "inline-block", "none"]
      ("[ <display-outside> || <display-inside> ] | <display-listitem> | <display-internal> "
        ++ "| <display-box> | <display-legacy>"),
    standard "flex-direction"
      ["column", "column-reverse", "row", "row-reverse"]
      "row | row-reverse | column | column-reverse",
    standard "font-weight"
      ["100", "200", "300", "400", "500", "600", "700", "800", "900", "bold", "bolder", "lighter",
        "normal"]
      "<font-weight-absolute> | bolder | lighter",
    standard "justify-content"
      ["center", "end", "flex-end", "flex-start", "normal", "space-around", "space-between",
        "space-evenly", "start"]
      ("normal | <content-distribution> | <overflow-position>? "
        ++ "[ <content-position> | left | right ]"),
    standard "position"
      ["absolute", "fixed", "relative", "static", "sticky"]
      "static | relative | absolute | sticky | fixed",
    standard "text-align"
      ["center", "end", "justify", "left", "match-parent", "right", "start"]
      "start | end | left | right | center | justify | match-parent",
    { standard "zoom" ["normal", "reset"]
        "normal | reset | <number [0,∞]> | <percentage [0,∞]>" with status := .experimental },
    { standard "box-align" ["baseline", "center", "end", "start", "stretch"]
        "start | center | end | baseline | stretch" with status := .deprecated }]

/-- The properties that can be set without a spec of one's own. -/
def spec : Spec :=
  source.normalize ⟨false, false⟩

/-- Gives a property one of its keywords. -/
def set (property keyword : Text) : Declaration :=
  PropertyKeyword.declaration ⟨property, keyword⟩

/-- Centers what is in a box. -/
def flexCenter : List Declaration :=
  [set "display" "flex", set "justify-content" "center", set "align-items" "center"]

/-- Puts what is in a box in a column. -/
def flexColumn : List Declaration :=
  [set "display" "flex", set "flex-direction" "column"]

/-- Puts what is in a box in a row. -/
def flexRow : List Declaration :=
  [set "display" "flex", set "flex-direction" "row"]

end TypedStyle.Bundle
