import MetadataHarvest.Markup.Canonical

/-!
# Layouts

Beside its written form a tree has others, which say the same. Where one tag directly follows
another, white space and comments may stand between the two, and an element without content may
be one tag that closes itself.
-/

namespace MetadataHarvest.Markup

/-- The tag of an element without content, which closes itself. -/
def selfClosingTag (name : String) (attributes : List (String × String)) : List Char :=
  '<' :: name.toList ++ attributes.flatMap writtenAttribute ++ ['/', '>']

def writtenComment (content : List Char) : List Char :=
  "<!--".toList ++ content ++ "-->".toList

/-- White space with any number of comments in it, none of which has a hyphen in its text. -/
inductive Gap : List Char → Prop
  | white {space : List Char} (hspace : ∀ c ∈ space, isSpace c = true) : Gap space
  | comment {space content rest : List Char} (hspace : ∀ c ∈ space, isSpace c = true)
      (hcontent : '-' ∉ content) (hrest : Gap rest) :
      Gap (space ++ (writtenComment content ++ rest))

/-- There is a gap only after a tag. -/
def GapAfter (afterTag : Bool) (gap : List Char) : Prop :=
  gap = [] ∨ afterTag = true ∧ Gap gap

/-- The layouts of content that is followed by a tag; `afterTag` says whether it follows one. -/
inductive Content.LaidOut : Bool → Content → List Char → Prop
  | nil {afterTag : Bool} {gap : List Char} (hgap : GapAfter afterTag gap) :
      LaidOut afterTag .nil gap
  | text {afterTag : Bool} {value : String} {rest : Content} {cs : List Char}
      (hrest : LaidOut false rest cs) :
      LaidOut afterTag (.text value rest) (escape value.toList ++ cs)
  | element {afterTag : Bool} {gap : List Char} {name : String}
      {attributes : List (String × String)} {children rest : Content} {inner cs : List Char}
      (hgap : GapAfter afterTag gap) (hchildren : LaidOut true children inner)
      (hrest : LaidOut true rest cs) :
      LaidOut afterTag (.element name attributes children rest)
        (gap ++ (openingTag name attributes ++ (inner ++ (closingTag name ++ cs))))
  | childless {afterTag : Bool} {gap : List Char} {name : String}
      {attributes : List (String × String)} {rest : Content} {cs : List Char}
      (hgap : GapAfter afterTag gap) (hrest : LaidOut true rest cs) :
      LaidOut afterTag (.element name attributes .nil rest)
        (gap ++ (selfClosingTag name attributes ++ cs))

/-- The layouts of an element, around which there may also be gaps. -/
def Element.LaidOut (e : Element) (cs : List Char) : Prop := e.alone.LaidOut true cs

/-- The written form is a layout, without any gap. -/
theorem Content.laidOut_written (afterTag : Bool) (c : Content) :
    c.LaidOut afterTag c.written := by
  induction c generalizing afterTag with
  | nil => exact .nil (.inl rfl)
  | text value rest ih => exact .text (ih false)
  | element name attributes children rest ihChildren ihRest =>
      have h : LaidOut afterTag (.element name attributes children rest) _ :=
        .element (.inl rfl) (ihChildren true) (ihRest true)
      simpa [written] using h

theorem Element.laidOut_written (e : Element) : e.LaidOut e.written := by
  rw [← written_alone]
  exact e.alone.laidOut_written true

end MetadataHarvest.Markup
