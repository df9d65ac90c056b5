import Marktree.Render

/-!
# Display surfaces

A display surface shows images of the trees that were rendered for it, with their hooks. It reports the
images that were loaded; a copy of an image or of a tree has the hooks of what was copied.
-/
namespace Marktree

structure Surface where
  hooks : Hooks := {}
  trees : List Node := []
  /-- The images of the trees, and copies of images. -/
  shown : List Image := []
  deriving Inhabited

namespace Surface

/-- Adds a tree, which may be a copy of another, and shows its images. -/
def display (s : Surface) (n : Node) : Surface :=
  { s with trees := s.trees ++ [n], shown := s.shown ++ n.images }

/-- Renders a text and adds its tree, if it has one. -/
def render (f : Format) (o : Options) (text : String) (s : Surface) : Surface :=
  match Render.documentFrom s.hooks f o text with
  | (.ok (some n), hooks) => { s with hooks }.display n
  | (_, hooks) => { s with hooks }

/-- Shows a copy of an image. -/
def copy (s : Surface) (i : Image) : Surface :=
  { s with shown := s.shown ++ [i] }

def hasFired (s : Surface) (i : Image) : Bool :=
  s.hooks.hasFired i.onLoad

/-- Reports that an image was loaded. Whether this was the first report for its hook comes with the
surface. -/
def loaded (s : Surface) (i : Image) : Bool × Surface :=
  let (first, hooks) := s.hooks.fire i.onLoad
  (first, { s with hooks })

end Surface

end Marktree
