import Harvest.Markup.Written

/-!
# Places in a tree

A cursor is a branch together with the way to it from the outermost one, so that parents and
siblings can be found from it. The descendants of a place come in the order of the text.
-/

namespace Harvest.Markup

/-- One step on the way: the label of the parent, and the siblings before (nearest first) and
behind. -/
structure Crumb where
  label : Label
  before : List Node
  behind : List Node

structure Cursor where
  label : Label
  children : List Node
  path : List Crumb

namespace Cursor

def node (c : Cursor) : Node := .branch c.label c.children

/-- The places above a node that is reached by this path, nearest first. -/
def above (n : Node) : List Crumb → List Cursor
  | [] => []
  | crumb :: path =>
    let children := crumb.before.reverse ++ n :: crumb.behind
    ⟨crumb.label, children, path⟩ :: above (.branch crumb.label children) path

def ancestors (c : Cursor) : List Cursor := above c.node c.path

/-- The branches among the siblings ahead of a place, nearest first. The siblings between such a
branch and the place are `passed`, nearest to the branch first. -/
def goingBack (label : Label) (path : List Crumb) (passed : List Node) : List Node → List Cursor
  | [] => []
  | .text kind t :: before => goingBack label path (.text kind t :: passed) before
  | .branch l children :: before =>
    ⟨l, children, ⟨label, before, passed⟩ :: path⟩ ::
      goingBack label path (.branch l children :: passed) before

def previous (c : Cursor) : List Cursor :=
  match c.path with
  | [] => []
  | crumb :: path => goingBack crumb.label path (c.node :: crumb.behind) crumb.before

mutual

/-- A node, reached by `path`, and what is below it. -/
def within (path : List Crumb) : Node → List Cursor
  | .text _ _ => []
  | .branch label children => ⟨label, children, path⟩ :: below label path [] children

/-- All places in the nodes behind `before`, whose parent has the label and is reached by
`path`. -/
def below (label : Label) (path : List Crumb) (before : List Node) : List Node → List Cursor
  | [] => []
  | n :: behind =>
    within (⟨label, before, behind⟩ :: path) n ++ below label path (n :: before) behind

end

def descendants (c : Cursor) : List Cursor := below c.label c.path [] c.children

def markup (c : Cursor) : Text := c.node.write false

def innerMarkup (c : Cursor) : Text := writeAll c.label.isRaw c.children

def innerText (c : Cursor) : Text := c.node.gather c.label.contentKind?

end Cursor

end Harvest.Markup
