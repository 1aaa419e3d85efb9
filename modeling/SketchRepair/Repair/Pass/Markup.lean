import SketchRepair.Document.BareStyle
import SketchRepair.Document.Markup
import SketchRepair.Repair.Pass

/-!
# SketchRepair — the textual passes

The two passes that mend the page by itself, without oracle or executor: one
restores encoded head markup, the other wraps bare CSS.
-/

namespace SketchRepair

namespace Pass

/-- A repair that is a function of the page; its number of fixes goes on record in
the given words. -/
def textual (name : Text) (words : Nat → Text) (mend : Text → Text × Nat) :
    Collaborators → Text → Run (Text × Nat) := fun _ page => do
  let (fixed, n) := mend page
  if n ≠ 0 then Run.log (.fixApplied name "document".toList (words n) [])
  return (fixed, n)

/-- Name of the pass that restores encoded head markup. -/
def markupName : Text := "markup".toList

def markup : Pass where
  name := markupName
  title := "MarkupPass".toList
  repair := textual markupName
    (fun n => "rewrote ".toList ++ Decimal.ofNat n ++ " encoded tag(s)".toList)
    Document.restoreMarkup

/-- Name of the pass that wraps bare CSS. -/
def styleTagsName : Text := "style-tags".toList

/-- The greatest number of regions that one run wraps in place. -/
def wrapLimit : Nat := 5

/-- Wraps CSS that stands outside of style elements. -/
def styleTags : Pass where
  name := styleTagsName
  title := "StyleTagPass".toList
  repair := textual styleTagsName
    (fun n => "wrapped ".toList ++ Decimal.ofNat n ++ " bare CSS region(s) in <style>".toList)
    (Document.wrapBareStyle wrapLimit)

end Pass

end SketchRepair
