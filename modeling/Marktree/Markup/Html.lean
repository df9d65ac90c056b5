import Marktree.Destination
import Marktree.Markup.Basic
import Marktree.Text.Reference
import Marktree.Text.Slug

/-!
# HTML

The markup that writes HTML. The state holds the anchors of the headings so far.
-/
namespace Marktree.Html

/-- An attribute in double quotes; the value is written as it is. -/
def attr (name value : String) : String :=
  " " ++ name ++ "=\"" ++ value ++ "\""

def element (name attributes content : String) : String :=
  "<" ++ name ++ attributes ++ ">" ++ content ++ "</" ++ name ++ ">"

def titleAttribute : Option String → String
  | none => ""
  | some title => attr "title" title

/-- A list that starts at one does not say so. -/
def startAttribute : Option Nat → String
  | none => ""
  | some n => if n = 1 then "" else attr "start" (toString n)

def alignAttribute : Option Align → String
  | none => ""
  | some a => attr "style" ("text-align:" ++ a.name)

def languageAttribute : Option String → String
  | none => ""
  | some l => attr "class" ("language-" ++ Text.escape l)

/-- What stands around a content. A link with a barred destination leaves its content alone. -/
def wrap (restrict : Bool) (w : Wrapper) (content : String) (anchors : Text.Slugs) :
    String × Text.Slugs :=
  match w with
  | .quote => (element "blockquote" "" content, anchors)
  | .heading level raw =>
    let (id, anchors) := anchors.anchor raw
    (element ("h" ++ toString level) (attr "id" id) (Text.trim content), anchors)
  | .list true start => (element "ol" (startAttribute start) content, anchors)
  | .list false _ => (element "ul" "" content, anchors)
  | .item => (element "li" "" content, anchors)
  | .paragraph => (element "p" "" content, anchors)
  | .row => (element "tr" "" content, anchors)
  | .cell true align => (element "th" (alignAttribute align) content, anchors)
  | .cell false align => (element "td" (alignAttribute align) content, anchors)
  | .strong => (element "strong" "" content, anchors)
  | .emphasis => (element "em" "" content, anchors)
  | .strikethrough => (element "s" "" content, anchors)
  | .link href title =>
    match Destination.resolve? restrict href with
    | some href =>
      (element "a" (attr "href" (Text.escape href) ++ titleAttribute title) content, anchors)
    | none => (content, anchors)

/-- The markup that writes HTML; an image with a barred destination leaves its alternative text. -/
def markup (restrict : Bool) : Markup Text.Slugs
  | .code body language, s =>
    (element "pre" "" (element "code" (languageAttribute language) (Text.escape body)), s)
  | .html raw, s => (raw, s)
  | .rule, s => ("<hr>", s)
  | .checkbox true, s => ("<input type=\"checkbox\" checked disabled> ", s)
  | .checkbox false, s => ("<input type=\"checkbox\" disabled> ", s)
  | .codeSpan text, s => (element "code" "" text, s)
  | .lineBreak, s => ("<br>", s)
  | .image src title alt, s =>
    match Destination.resolve? restrict src with
    | some src =>
      ("<img" ++ attr "src" (Text.escape src) ++ titleAttribute title ++ attr "alt" alt
        ++ ">", s)
    | none => (alt, s)
  | .text text, s => (text, s)
  | .wrap w content, s => wrap restrict w content s
  | .table header body, s =>
    (element "table" "" (element "thead" "" header ++ element "tbody" "" body), s)

end Marktree.Html
